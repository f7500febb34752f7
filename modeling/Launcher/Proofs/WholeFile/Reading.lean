import Launcher.Proofs.Run.Returns
import Launcher.Proofs.Run.Trace
import Launcher.Proofs.WholeFile.Rounds

/-!
# Reading a file, whatever the calls answer

A file is read chunk after chunk until a read gives nothing. A read can be interrupted, and is then
made again; it can be cut short; and it can fail, which is the end. The number of reads has no bound
that is known beforehand: it depends on what is left of the file and on the interruptions that are
still to come, and both become fewer.

## Main definitions

* `Launcher.Fault.Ceases` — a plan strikes in a given way up to some call and not behind it.
* `Launcher.WholeFile.ReadsOn` — how what is left of a file is read.
* `Launcher.WholeFile.GoesOn` — the answers to reads that are not the last one.
* `Launcher.WholeFile.OnlyDelays` — calls are interrupted at most, or cut short.
* `Launcher.WholeFile.ComesToEnd` — the answers to reads that come to the end of a file.
* `Launcher.WholeFile.ReadsForEver` — how the reading of a file goes on for ever.

## Main results

* `Launcher.WholeFile.exists_readsOn` — reading comes to an end if the interruptions do.
* `Launcher.WholeFile.ReadsOn.length_le` — the limit that is set to the reads is enough.
* `Launcher.WholeFile.exec_readOn_of_readsOn` — what is read, with fuel for all reads.
* `Launcher.WholeFile.exec_readOn_of_unending` and `Launcher.WholeFile.unending_iff` — reading that
  comes to no end goes on for ever, and no other reading does.
* `Launcher.WholeFile.ReadsOn.eq_ok` — all of the file is read if the reads are only delayed.
* `Launcher.WholeFile.reading_ends` — how the reading of a file ends.
-/

namespace Launcher

open Launcher.Action

/-! ## Plans that cease -/

namespace Fault

variable {plan : List Fault} {c : Call} {strike : Strike} {k : Nat}

/-- The plan strikes in this way up to some call of the kind, and not behind it. -/
def Ceases (plan : List Fault) (c : Call) (strike : Strike) : Prop :=
  ∃ last, ∀ i, last < i → strike? plan c i ≠ some strike

/-- What ceases has ceased behind the last number that the plan asks for. -/
theorem Ceases.strike?_ne (h : Ceases plan c strike) (hk : lastNumber plan c < k) :
    strike? plan c k ≠ some strike := by
  obtain ⟨last, hlast⟩ := h
  rw [strike?_of_lastNumber_lt hk (Nat.lt_add_left (last + 1) hk)]
  exact hlast _ (by omega)

/-- **A plan ceases to strike in one way** if it has done so behind the last number. -/
theorem ceases_iff :
    Ceases plan c strike ↔ strike? plan c (lastNumber plan c + 1) ≠ some strike := by
  refine ⟨fun h => h.strike?_ne (Nat.lt_succ_self _), fun h => ⟨lastNumber plan c, fun i hi => ?_⟩⟩
  rwa [strike?_of_lastNumber_lt hi (Nat.lt_succ_self _)]

/-- Whether the strikes of a plan cease is decided by its entries. -/
instance : Decidable (Ceases plan c strike) := decidable_of_iff _ ceases_iff.symm

end Fault

namespace WholeFile

/-! ## Read after read -/

/-- **How what is left of a file is read,** from the `k`-th read of the machine on, by what strikes
each read: the answers to the reads and what they come to. An interrupted read is made again, a read
that gives nothing is the last one, and so is one that fails. -/
inductive ReadsOn (strikes : Nat → Option Strike) :
    Nat → Reader → List Answer → Except OsError Bytes → Prop
  | interrupted {k : Nat} {reader : Reader} {answers : List Answer} {read : Except OsError Bytes}
      (h : strikes k = some (.fail .interrupted))
      (rest : ReadsOn strikes (k + 1) reader answers read) :
      ReadsOn strikes k reader (.error .interrupted :: answers) read
  | failed {k : Nat} {reader : Reader} {e : Errno} (h : strikes k = some (.fail e))
      (hne : e ≠ .interrupted) : ReadsOn strikes k reader [.error e] (.error (.of e none))
  | directory {k n : Nat} (h : Strike.most? chunkSize (strikes k) = some n) :
      ReadsOn strikes k .directory [.error .isDirectory] (.error (.of .isDirectory none))
  | ended {k n : Nat} {unread : Bytes} (h : Strike.most? chunkSize (strikes k) = some n)
      (hnone : unread.take n = []) : ReadsOn strikes k (.file unread) [.count 0] (.ok [])
  | chunk {k n : Nat} {unread : Bytes} {answers : List Answer} {read : Except OsError Bytes}
      (h : Strike.most? chunkSize (strikes k) = some n) (hsome : unread.take n ≠ [])
      (rest : ReadsOn strikes (k + 1) (.file (unread.drop n)) answers read) :
      ReadsOn strikes k (.file unread) (.count (unread.take n).length :: answers)
        (read.map (unread.take n ++ ·))

variable {strikes : Nat → Option Strike} {k : Nat} {reader : Reader} {answers : List Answer}
  {read : Except OsError Bytes} {unread : Bytes} {plan : List Fault} {path : Path} {w : World}

/-- The bytes that are left to read. -/
def left : Reader → Nat
  | .directory => 0
  | .file unread => unread.length

/-- **Reading comes to an end if the interruptions do.** Each read but the last one gives a byte at
least, or has a number up to the last one for which a fault asks.

The induction is on a bound for what is left of both. -/
theorem exists_readsOn (n : Nat) (reader : Reader)
    (hceases : Fault.Ceases plan (.read chunkSize) (.fail .interrupted))
    (hn : left reader + (Fault.lastNumber plan (.read chunkSize) + 1 - k) < n) :
    ∃ answers read, ReadsOn (strikesReads plan) k reader answers read := by
  induction n generalizing k reader with
  | zero => omega
  | succ n ih =>
    cases round (strikesReads plan k) reader with
    | interrupted hstrike =>
      have hasked : ¬Fault.lastNumber plan (.read chunkSize) < k :=
        fun hbehind => hceases.strike?_ne hbehind hstrike
      obtain ⟨answers, read, hreads⟩ := ih (k := k + 1) reader (by omega)
      exact ⟨_, _, .interrupted hstrike hreads⟩
    | failed hstrike hne => exact ⟨_, _, .failed hstrike hne⟩
    | directory hmost => exact ⟨_, _, .directory hmost⟩
    | ended hmost hnone => exact ⟨_, _, .ended hmost hnone⟩
    | @chunk most unread hmost hsome =>
      have hless : left (.file (unread.drop most)) < left (.file unread) := length_drop_lt hsome
      obtain ⟨answers, read, hreads⟩ := ih (k := k + 1) (.file (unread.drop most)) (by omega)
      exact ⟨_, _, .chunk hmost hsome hreads⟩

/-- Reading does not come to an end among reads that are all interrupted. -/
theorem ReadsOn.exists_not_interrupted (h : ReadsOn strikes k reader answers read) :
    ∃ i, k ≤ i ∧ strikes i ≠ some (.fail .interrupted) := by
  have hmoves : ∀ {k n}, Strike.most? chunkSize (strikes k) = some n →
      strikes k ≠ some (.fail .interrupted) := by
    intro k n hmost hstrike
    rw [hstrike] at hmost
    cases hmost
  induction h with
  | interrupted hstrike rest ih =>
    obtain ⟨i, hi, hother⟩ := ih
    exact ⟨i, Nat.le_of_succ_le hi, hother⟩
  | failed hstrike hne => exact ⟨_, Nat.le_refl _, by simpa [hstrike] using hne⟩
  | directory hmost => exact ⟨_, Nat.le_refl _, hmoves hmost⟩
  | ended hmost hnone => exact ⟨_, Nat.le_refl _, hmoves hmost⟩
  | chunk hmost hsome rest ih => exact ⟨_, Nat.le_refl _, hmoves hmost⟩

/-- **Reading that comes to an end does so within the limit,** whatever faults are planned: an
interruption behind the last number is followed by interruptions for ever. -/
theorem ReadsOn.length_le (h : ReadsOn (strikesReads plan) k reader answers read) :
    answers.length ≤
      left reader + (Fault.lastNumber plan (.read chunkSize) + 1 - k) + 1 := by
  induction h with
  | @interrupted k reader answers read hstrike rest ih =>
    have hasked : ¬Fault.lastNumber plan (.read chunkSize) < k := by
      intro hbehind
      obtain ⟨i, hi, hother⟩ := rest.exists_not_interrupted
      refine hother ((Fault.strike?_of_lastNumber_lt ?_ hbehind).trans hstrike)
      omega
    rw [List.length_cons]
    omega
  | failed hstrike hne => exact Nat.le_add_left _ _
  | directory hmost => exact Nat.le_add_left _ _
  | ended hmost hnone => exact Nat.le_add_left _ _
  | @chunk k n unread answers read hmost hsome rest ih =>
    have hless : left (.file (unread.drop n)) < left (.file unread) := length_drop_lt hsome
    rw [List.length_cons]
    omega

/-- **What is read,** with fuel for all reads. -/
theorem exec_readOn_of_readsOn (more : Nat) (chunks : List Bytes)
    (h : ReadsOn (strikesReads w.faults) w.nextRead reader answers read) :
    ∃ w', exec (readOn (more + answers.length) reader chunks) w =
        (.ok (read.map (chunks.reverse.flatten ++ ·)), w') ∧
      w.Makes (answers.map (Call.read chunkSize, ·)) w' := by
  generalize hk : w.nextRead = k at h
  generalize hplan : w.faults = plan at h
  induction h generalizing w chunks with
  | @interrupted k reader answers read hstrike rest ih =>
    subst hk hplan
    obtain ⟨w', hexec, hmakes⟩ :=
      ih (w := w.afterCall (.read chunkSize) (.error .interrupted)) chunks (by simp) rfl
    exact ⟨w', (exec_readOn_of_interrupted _ reader chunks hstrike).trans hexec,
      (World.makes_afterCall rfl _ w).trans hmakes⟩
  | failed hstrike hne =>
    subst hk hplan
    exact ⟨_, exec_readOn_of_failed _ _ chunks hstrike hne, rfl⟩
  | directory hmost =>
    subst hk hplan
    exact ⟨_, exec_readOn_directory_of_most? _ chunks hmost, rfl⟩
  | ended hmost hnone =>
    subst hk hplan
    refine ⟨w.afterCall (.read chunkSize) (.count 0),
      (exec_readOn_of_ended _ chunks hmost hnone).trans ?_, rfl⟩
    rw [Except.map, List.append_nil]
  | @chunk k n unread answers read hmost hsome rest ih =>
    subst hk hplan
    obtain ⟨w', hexec, hmakes⟩ :=
      ih (w := w.afterCall (.read chunkSize) (.count (unread.take n).length))
        (unread.take n :: chunks) (by simp) rfl
    refine ⟨w', ((exec_readOn_of_chunk _ chunks hmost hsome).trans hexec).trans ?_,
      (World.makes_afterCall rfl _ w).trans hmakes⟩
    rcases read with e | content
    · rfl
    · simp [Except.map]

/-! ## Reading that never ends -/

/-- Reads that are not the last one: each has been interrupted or has given something. -/
def GoesOn (answers : List Answer) : Prop :=
  ∀ answer ∈ answers, answer = .error .interrupted ∨ ∃ n, 0 < n ∧ answer = .count n

/-- **So many reads come to the end of the reading, or all of them are made and it still goes on.**

The induction is on the number of reads, along the rounds. -/
theorem exec_readOn_cases (fuel : Nat) (reader : Reader) (chunks : List Bytes) (w : World) :
    (∃ answers read, ReadsOn (strikesReads w.faults) w.nextRead reader answers read ∧
        answers.length ≤ fuel) ∨
      ∃ answers w', exec (readOn fuel reader chunks) w = (.error .unending, w') ∧
        answers.length = fuel ∧ GoesOn answers ∧
          w.Makes (answers.map (Call.read chunkSize, ·)) w' := by
  induction fuel generalizing reader chunks w with
  | zero => exact Or.inr ⟨[], w, rfl, rfl, by simp [GoesOn], World.makes_of_trace_eq rfl⟩
  | succ fuel ih =>
    cases round (strikesReads w.faults w.nextRead) reader with
    | interrupted hstrike =>
      rcases ih reader chunks (w.afterCall (.read chunkSize) (.error .interrupted)) with
        ⟨answers, read, hreads, hlength⟩ | ⟨answers, w', hexec, hlength, hgoes, hmakes⟩
      · rw [nextRead_afterCall_read] at hreads
        exact Or.inl ⟨_, _, .interrupted hstrike hreads, Nat.succ_le_succ hlength⟩
      · exact Or.inr ⟨_ :: answers, w',
          (exec_readOn_of_interrupted fuel reader chunks hstrike).trans hexec,
          congrArg Nat.succ hlength, List.forall_mem_cons.2 ⟨Or.inl rfl, hgoes⟩,
          (World.makes_afterCall rfl _ w).trans hmakes⟩
    | failed hstrike hne => exact Or.inl ⟨_, _, .failed hstrike hne, Nat.le_add_left _ _⟩
    | directory hmost => exact Or.inl ⟨_, _, .directory hmost, Nat.le_add_left _ _⟩
    | ended hmost hnone => exact Or.inl ⟨_, _, .ended hmost hnone, Nat.le_add_left _ _⟩
    | @chunk n unread hmost hsome =>
      rcases ih (.file (unread.drop n)) (unread.take n :: chunks)
          (w.afterCall (.read chunkSize) (.count (unread.take n).length)) with
        ⟨answers, read, hreads, hlength⟩ | ⟨answers, w', hexec, hlength, hgoes, hmakes⟩
      · rw [nextRead_afterCall_read] at hreads
        exact Or.inl ⟨_, _, .chunk hmost hsome hreads, Nat.succ_le_succ hlength⟩
      · exact Or.inr ⟨_ :: answers, w',
          (exec_readOn_of_chunk fuel chunks hmost hsome).trans hexec, congrArg Nat.succ hlength,
          List.forall_mem_cons.2 ⟨Or.inr ⟨_, List.length_pos_iff.2 hsome, rfl⟩, hgoes⟩,
          (World.makes_afterCall rfl _ w).trans hmakes⟩

/-- **Reading that comes to no end makes read after read:** however many reads it is given, it makes
all of them and goes on. -/
theorem exec_readOn_of_unending
    (h : ¬∃ answers read, ReadsOn (strikesReads w.faults) w.nextRead reader answers read)
    (fuel : Nat) (chunks : List Bytes) :
    ∃ answers w', exec (readOn fuel reader chunks) w = (.error .unending, w') ∧
      answers.length = fuel ∧ GoesOn answers ∧
        w.Makes (answers.map (Call.read chunkSize, ·)) w' := by
  rcases exec_readOn_cases fuel reader chunks w with ⟨answers, read, hreads, -⟩ | hunending
  · exact absurd ⟨answers, read, hreads⟩ h
  · exact hunending

/-- The limit that is set to the reads leaves none out. -/
theorem ReadsOn.length_le_readLimit
    (h : ReadsOn (strikesReads w.faults) w.nextRead reader answers read) :
    answers.length ≤ readLimit w.machine reader := by
  have hlength := h.length_le
  have hpositive : 1 ≤ w.nextRead := Nat.le_add_left _ _
  have hreader : readLimit w.machine reader =
      left reader + Fault.lastNumber w.faults (.read chunkSize) + 1 := by
    rcases reader with _ | unread
    · rw [left, Nat.zero_add]
      rfl
    · rfl
  omega

/-- What is read of a file, with the limit that is set to the reads. -/
theorem exec_readOn_readLimit (chunks : List Bytes)
    (h : ReadsOn (strikesReads w.faults) w.nextRead reader answers read) :
    ∃ w', exec (readOn (readLimit w.machine reader) reader chunks) w =
        (.ok (read.map (chunks.reverse.flatten ++ ·)), w') ∧
      w.Makes (answers.map (Call.read chunkSize, ·)) w' := by
  obtain ⟨more, hmore⟩ := Nat.exists_eq_add_of_le' h.length_le_readLimit
  rw [hmore]
  exact exec_readOn_of_readsOn more chunks h

/-- **Reading within the limit is said to be unending just if it is.** -/
theorem unending_iff (reader : Reader) (chunks : List Bytes) (w : World) :
    (exec (readOn (readLimit w.machine reader) reader chunks) w).1 = .error .unending ↔
      ¬∃ answers read, ReadsOn (strikesReads w.faults) w.nextRead reader answers read := by
  refine ⟨fun h hends => ?_, fun h => ?_⟩
  · obtain ⟨answers, read, hreads⟩ := hends
    obtain ⟨w', hexec, -⟩ := exec_readOn_readLimit chunks hreads
    rw [hexec] at h
    cases h
  · obtain ⟨_, w', hexec, -⟩ := exec_readOn_of_unending h (readLimit w.machine reader) chunks
    rw [hexec]

/-! ## What the answers come to -/

/-- Of `n` calls, from the `k`-th on, each one is interrupted at most, or cut short to so many bytes
or more. -/
structure OnlyDelays (strikes : Nat → Option Strike) (least k n : Nat) : Prop where
  interrupted : ∀ i, k ≤ i → i < k + n → ∀ e, strikes i = some (.fail e) → e = .interrupted
  least_le : ∀ i, k ≤ i → i < k + n → ∀ limit, strikes i = some (.short limit) → least ≤ limit

variable {least : Nat}

/-- The calls behind the first one. -/
theorem OnlyDelays.tail {n : Nat} (h : OnlyDelays strikes least k (n + 1)) :
    OnlyDelays strikes least (k + 1) n where
  interrupted i hi hn := h.interrupted i (by omega) (by omega)
  least_le i hi hn := h.least_le i (by omega) (by omega)

/-- Among calls that are only delayed the first does not fail, but by an interruption. -/
theorem OnlyDelays.eq_interrupted {n : Nat} (h : OnlyDelays strikes least k (n + 1)) {e : Errno}
    (hstrike : strikes k = some (.fail e)) : e = .interrupted :=
  h.interrupted k (Nat.le_refl k) (by omega) e hstrike

/-- Among calls that are only delayed the first one moves what it is asked to move, or so many
bytes, if it is not interrupted. -/
theorem OnlyDelays.min_le {n size most : Nat} (h : OnlyDelays strikes least k (n + 1))
    (hmost : Strike.most? size (strikes k) = some most) : min size least ≤ most := by
  obtain ⟨-, rfl⟩ | ⟨limit, hstrike, rfl⟩ := Strike.most?_eq_some_iff.1 hmost
  · exact Nat.min_le_left _ _
  · have hlimit := h.least_le k (Nat.le_refl k) (by omega) limit hstrike
    omega

/-- The reads come to the end of a file: the last one gives nothing, and those before it have been
interrupted or have given something. -/
def ComesToEnd (answers : List Answer) : Prop :=
  ∃ earlier, answers = earlier ++ [.count 0] ∧ GoesOn earlier

/-- Reads that come to an end still do so behind one that was interrupted or gave something. -/
theorem ComesToEnd.cons {answer : Answer} (h : ComesToEnd answers)
    (hanswer : answer = .error .interrupted ∨ ∃ n, 0 < n ∧ answer = .count n) :
    ComesToEnd (answer :: answers) := by
  obtain ⟨earlier, rfl, hearlier⟩ := h
  exact ⟨answer :: earlier, rfl, List.forall_mem_cons.2 ⟨hanswer, hearlier⟩⟩

/-- **A read that fails is the end of it.** Nothing that has been read before counts. -/
theorem ReadsOn.exists_eq_error (h : ReadsOn strikes k reader answers read) {e : Errno}
    (hmem : .error e ∈ answers) (hne : e ≠ .interrupted) : ∃ e', read = .error e' := by
  induction h with
  | interrupted hstrike rest ih =>
    rcases List.mem_cons.1 hmem with hfirst | hrest
    · exact absurd (Answer.error.inj hfirst) hne
    · exact ih hrest
  | failed hstrike hne => exact ⟨_, rfl⟩
  | directory hmost => exact ⟨_, rfl⟩
  | ended hmost hnone => simp at hmem
  | chunk hmost hsome rest ih =>
    obtain ⟨e', rfl⟩ := ih (by simpa using hmem)
    exact ⟨e', rfl⟩

/-- **All of a file is read if the reads are only delayed,** and the last read gives nothing. -/
theorem ReadsOn.eq_ok (h : ReadsOn strikes k (.file unread) answers read)
    (hdelays : OnlyDelays strikes 1 k answers.length) : read = .ok unread ∧ ComesToEnd answers := by
  generalize hreader : Reader.file unread = reader at h
  induction h generalizing unread with
  | interrupted hstrike rest ih =>
    obtain ⟨hread, hend⟩ := ih hdelays.tail hreader
    exact ⟨hread, hend.cons (Or.inl rfl)⟩
  | failed hstrike hne => exact absurd (hdelays.eq_interrupted hstrike) hne
  | directory hmost => cases hreader
  | @ended k n unread hmost hnone =>
    cases hreader
    -- The read may give a byte and gives none, so nothing was left.
    have hpositive : 1 ≤ n := hdelays.min_le hmost
    obtain rfl | rfl := List.take_eq_nil_iff.1 hnone
    · omega
    · exact ⟨rfl, [], rfl, by simp [GoesOn]⟩
  | @chunk k n unread answers read hmost hsome rest ih =>
    cases hreader
    obtain ⟨rfl, hend⟩ := ih hdelays.tail rfl
    refine ⟨?_, hend.cons (Or.inr ⟨_, List.length_pos_iff.2 hsome, rfl⟩)⟩
    show Except.ok (unread.take n ++ unread.drop n) = _
    rw [List.take_append_drop]

/-- **How many reads a file takes** that are only interrupted: one for each chunk of it, one that
gives nothing, and one for each interruption. -/
theorem ReadsOn.length_eq (h : ReadsOn strikes k (.file unread) answers read)
    (hdelays : OnlyDelays strikes chunkSize k answers.length) :
    answers.length = (unread.length + chunkSize - 1) / chunkSize + 1 +
      answers.count (.error .interrupted) := by
  generalize hreader : Reader.file unread = reader at h
  induction h generalizing unread with
  | interrupted hstrike rest ih =>
    rw [List.length_cons, List.count_cons_self, ih hdelays.tail hreader]
    omega
  | failed hstrike hne => exact absurd (hdelays.eq_interrupted hstrike) hne
  | directory hmost => cases hreader
  | @ended k n unread hmost hnone =>
    cases hreader
    have hwhole : chunkSize ≤ n := hdelays.min_le hmost
    obtain rfl | rfl := List.take_eq_nil_iff.1 hnone
    · exact absurd hwhole (by decide)
    · rfl
  | @chunk k n unread answers read hmost hsome rest ih =>
    cases hreader
    have hpositive : 0 < unread.length :=
      List.length_pos_iff.2 fun hnil => hsome (by rw [hnil, List.take_nil])
    have hchunk : chunkSize = n := by
      have hwhole : chunkSize ≤ n := hdelays.min_le hmost
      obtain ⟨-, rfl⟩ | ⟨limit, -, rfl⟩ := Strike.most?_eq_some_iff.1 hmost <;> omega
    rw [List.length_cons, List.count_cons_of_ne (by simp), ih hdelays.tail rfl, List.length_drop,
      ← hchunk, chunkSize]
    omega

/-! ## The whole file -/

/-- **A file that has been opened is read and closed once,** if reading comes to an end. -/
theorem exists_exec_readOpened (path : Path)
    (h : ReadsOn (strikesReads w.faults) w.nextRead reader answers read) :
    ∃ closed result w', exec (readOpened path reader) w = (result, w') ∧
      w.Makes (answers.map (Call.read chunkSize, ·) ++ [(.close, closed)]) w' ∧
      ClosedAs read.toOption closed result := by
  obtain ⟨w₁, hexec, hmakes⟩ := exec_readOn_readLimit [] h
  unfold readOpened
  rw [exec_bind_of_ok (exec_get w), exec_bind_of_ok hexec]
  rcases read with e | content
  · obtain ⟨log, hlog⟩ := exists_exec_log Level.debug
      (lit "Cannot read " ++ path.quoted ++ lit ": " ++ e.render) w₁
    obtain ⟨closed, result, hclosing, hclosed⟩ := exists_exec_closing none (w₁.withLog log)
    have hclose : w₁.Makes [(.close, closed)] ((w₁.withLog log).afterCall .close closed) := rfl
    exact ⟨closed, result, _, (exec_bind_of_ok hlog).trans hclosing, hmakes.trans hclose, hclosed⟩
  · obtain ⟨closed, result, hclosing, hclosed⟩ := exists_exec_closing (some content) w₁
    exact ⟨closed, result, _, hclosing, hmakes.trans (World.makes_afterCall rfl _ w₁), hclosed⟩

/-- How the reading of a file goes on for ever between two worlds of a process: the interruptions
never cease, and the calls so far open the file and read on. Nothing else is done. -/
structure ReadsForEver (w w' : World) : Prop where
  interrupted : ¬Fault.Ceases w.faults (.read chunkSize) (.fail .interrupted)
  written : w'.written = w.written
  calls : ∃ path answers, GoesOn answers ∧
    w.Makes ((.openToRead path, .ok) :: answers.map (Call.read chunkSize, ·)) w'

/-- **A file that has been opened is read and closed, or its reading goes on for ever.** -/
theorem exec_readOpened_cases (path : Path) (reader : Reader) (w : World) :
    (∃ answers read closed result w',
        ReadsOn (strikesReads w.faults) w.nextRead reader answers read ∧
        exec (readOpened path reader) w = (result, w') ∧
        w.Makes (answers.map (Call.read chunkSize, ·) ++ [(.close, closed)]) w' ∧
        ClosedAs read.toOption closed result) ∨
      ∃ answers w', exec (readOpened path reader) w = (.error .unending, w') ∧
        ¬Fault.Ceases w.faults (.read chunkSize) (.fail .interrupted) ∧
        GoesOn answers ∧ w.Makes (answers.map (Call.read chunkSize, ·)) w' := by
  by_cases hends : ∃ answers read, ReadsOn (strikesReads w.faults) w.nextRead reader answers read
  · obtain ⟨answers, read, hreads⟩ := hends
    obtain ⟨closed, result, w', hexec, hmakes, hclosed⟩ := exists_exec_readOpened path hreads
    exact Or.inl ⟨answers, read, closed, result, w', hreads, hexec, hmakes, hclosed⟩
  · obtain ⟨answers, w', hexec, -, hgoes, hmakes⟩ :=
      exec_readOn_of_unending hends (readLimit w.machine reader) []
    refine Or.inr ⟨answers, w', ?_, fun hceases => hends ?_, hgoes, hmakes⟩
    · unfold readOpened
      rw [exec_bind_of_ok (exec_get w), exec_bind_of_error hexec]
    · exact exists_readsOn _ reader hceases (Nat.lt_succ_self _)

/-- A path that names a file is opened as that file. -/
theorem openToRead_of_status? {m : Machine} {bits : Nat} {content : Bytes}
    (hzero : 0 ∉ path.toBytes) (h : m.status? path = some (.file bits content)) :
    m.openToRead path.toBytes = .ok (.file content) := by
  rw [Machine.status?_eq_toOption hzero] at h
  unfold Machine.openToRead
  rw [eq_ok_of_toOption h]
  rfl

/-- **How the reading of a file ends,** whatever faults are planned. A file that cannot be opened is
not read. Reading a file that has been opened comes to an end if the interruptions do; and whenever
it does, the file is closed once, and a read that fails for any reason but an interruption leaves
nothing of what has been read before. If the reads that are made are only delayed, and give a byte
at least, all of the file is read: the last read gives nothing, and those before it have been
interrupted or have given something. If they are not cut short either, there is one for each chunk,
one that gives nothing, and one for each interruption. Nothing changes in the tree.

**Proof sketch.** With each read that is made again or gives something, a number for which a fault
may ask is passed, or less is left of the file; so reading comes to an end (`exists_readsOn`),
within the limit that is set to it (`ReadsOn.length_le`). What the reads give is put together along
the reads (`exec_readOn_of_readsOn`), and what they come to is told by induction on them. -/
theorem reading_ends (path : Path) (hzero : 0 ∉ path.toBytes) (w : World) :
    ∃ result w', exec (read? path) w = (result, w') ∧ w'.machine.tree = w.machine.tree ∧
      ((∃ e, w.Makes [(.openToRead path, .error e)] w' ∧ result = .ok none) ∨
        ∃ reader, w.machine.openToRead path.toBytes = .ok reader ∧
          (Fault.Ceases w.faults (.read chunkSize) (.fail .interrupted) →
            ∃ answers read, ReadsOn (strikesReads w.faults) w.nextRead reader answers read) ∧
          ∀ answers read, ReadsOn (strikesReads w.faults) w.nextRead reader answers read →
            (∃ closed, w.Makes ((.openToRead path, .ok) ::
                (answers.map (Call.read chunkSize, ·) ++ [(.close, closed)])) w' ∧
              ClosedAs read.toOption closed result) ∧
            (∀ e, .error e ∈ answers → e ≠ .interrupted → read.toOption = none) ∧
            ∀ bits content, w.machine.status? path = some (.file bits content) →
              (OnlyDelays (strikesReads w.faults) 1 w.nextRead answers.length →
                read = .ok content ∧ ComesToEnd answers) ∧
              (OnlyDelays (strikesReads w.faults) chunkSize w.nextRead answers.length →
                answers.length = (content.length + chunkSize - 1) / chunkSize + 1 +
                  answers.count (.error .interrupted))) := by
  obtain ⟨result, w', hexec⟩ : ∃ result w', exec (read? path) w = (result, w') := ⟨_, _, rfl⟩
  have hkeeps : Keeps (World.besides [.log, .trace]) [] (read? path) := keeps_read? path
  refine ⟨result, w', hexec, World.tree_eq_of_bare_eq (hkeeps.bare.view_eq_of_exec hexec), ?_⟩
  rw [read?_eq] at hexec
  rcases exec_openToRead_cases path w with
    ⟨failure, hopen⟩ | ⟨e, hopen⟩ | ⟨reader, -, hreader, hopen⟩
  · obtain ⟨_, _, hreturns⟩ := returns_openToRead hzero w
    cases hopen.symm.trans hreturns
  · obtain ⟨log, hlog⟩ := exists_exec_log Level.debug
      (lit "Cannot open " ++ path.quoted ++ lit ": " ++ (OsError.of e (some path)).render)
      (w.afterCall (.openToRead path) (.error e))
    rw [exec_bind_of_ok hopen] at hexec
    cases (exec_bind_of_ok hlog).symm.trans hexec
    exact Or.inl ⟨e, rfl, rfl⟩
  · rw [exec_bind_of_ok hopen] at hexec
    have hopened := World.makes_afterCall (c := .openToRead path) rfl .ok w
    refine Or.inr ⟨reader, hreader,
      fun hceases => exists_readsOn _ reader hceases (Nat.lt_succ_self _),
      fun answers read hreads => ⟨?_, fun e hmem hne => ?_, fun bits content hstatus => ?_⟩⟩
    · obtain ⟨closed, _, _, hread, hmakes, hclosed⟩ :=
        exists_exec_readOpened (w := w.afterCall (.openToRead path) .ok) path hreads
      cases hread.symm.trans hexec
      exact ⟨closed, hopened.trans hmakes, hclosed⟩
    · obtain ⟨e', rfl⟩ := hreads.exists_eq_error hmem hne
      rfl
    · obtain rfl := Except.ok.inj ((openToRead_of_status? hzero hstatus).symm.trans hreader)
      exact ⟨hreads.eq_ok, hreads.length_eq⟩

/-- A process on a machine with a note of five bytes, whose first read and fifth read are
interrupted, and whose reads give two bytes at most. -/
def signalled : World where
  machine :=
    { tree := Tree.empty.plant (Location.ofPath (lit "/note").encode)
        (.file 0o644 (lit "abcde").encode)
      workingDirectory := some (lit "/"), userId := 1000, accounts := [], umask := 0o022
      terminal := ⟨false, false, none⟩
      faults := [⟨.read, some 1, none, .fail .interrupted⟩,
        ⟨.read, some 5, none, .fail .interrupted⟩, ⟨.read, none, none, .short 2⟩]
      made := [] }
  process := .fresh [] Level.warning

/-- The note is read as a whole: three reads give it in pieces, the next one would give nothing and
is interrupted, and the last one gives nothing. -/
theorem reading_ends_signalled :
    0 ∉ (Path.text (lit "/note")).toBytes ∧
    ∃ w', exec (read? (.text (lit "/note"))) signalled = (.ok (some (lit "abcde").encode), w') ∧
      signalled.Makes ((.openToRead (.text (lit "/note")), .ok) ::
        ([.error .interrupted, .count 2, .count 2, .count 1, .error .interrupted, .count 0].map
          (Call.read chunkSize, ·) ++ [(.close, .ok)])) w' := by
  have hzero : 0 ∉ (Path.text (lit "/note")).toBytes := by decide
  have hplan : ∀ fault ∈ signalled.faults,
      fault.strike = .fail .interrupted ∨ fault.strike = .short 2 := by decide
  have hdelays : ∀ n, OnlyDelays (strikesReads signalled.faults) 1 signalled.nextRead n := by
    intro n
    refine ⟨fun i _ _ e hstrike => ?_, fun i _ _ limit hstrike => ?_⟩
    · obtain ⟨fault, hmem, -, hfault⟩ := Fault.exists_of_strike? hstrike
      rcases hplan fault hmem with hfail | hshort
      · exact Strike.fail.inj (hfault.symm.trans hfail)
      · cases hfault.symm.trans hshort
    · obtain ⟨fault, hmem, -, hfault⟩ := Fault.exists_of_strike? hstrike
      rcases hplan fault hmem with hfail | hshort
      · cases hfault.symm.trans hfail
      · obtain rfl := Strike.short.inj (hfault.symm.trans hshort)
        decide
  have hstatus : signalled.machine.status? (.text (lit "/note")) =
      some (.file 0o644 (lit "abcde").encode) := by decide +kernel
  have htrace : (exec (read? (.text (lit "/note"))) signalled).2.process.trace =
      (.openToRead (.text (lit "/note")), .ok) ::
        ([.error .interrupted, .count 2, .count 2, .count 1, .error .interrupted, .count 0].map
          (Call.read chunkSize, ·) ++ [(.close, .ok)]) := by decide +kernel
  obtain ⟨result, w', hexec, -, ⟨e, hmakes, -⟩ | ⟨reader, -, hends, hread⟩⟩ :=
    reading_ends (.text (lit "/note")) hzero signalled
  · rw [hexec] at htrace
    cases hmakes.symm.trans htrace
  · obtain ⟨answers, read, hreads⟩ := hends (by decide)
    obtain ⟨⟨closed, hmakes, hclosed⟩, -, hall⟩ := hread answers read hreads
    obtain ⟨rfl, -⟩ := (hall _ _ hstatus).1 (hdelays _)
    rw [hexec] at htrace
    obtain ⟨-, hlast⟩ := List.append_inj' (List.cons.inj (hmakes.symm.trans htrace)).2 rfl
    obtain rfl := (Prod.mk.inj (List.cons.inj hlast).1).2
    cases hclosed
    exact ⟨hzero, w', hexec, htrace⟩

end WholeFile

end Launcher
