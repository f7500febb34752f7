import Launcher.Directory
import Launcher.Proofs.Run.Spelling
import Launcher.Proofs.Session.History
import Launcher.Proofs.WholeFile
import Launcher.Session

/-!
# Operations on a path and on its bytes

Making a path absolute, creating directories, reading a file and replacing one do the same for a
path and for its bytes, from every state of a session and under every plan of faults: they leave the
same tree, make the same calls with the bytes of their paths, and come to the same result. This
holds of every text, whether its bytes are UTF-8 or not.

## Main definitions

* `Launcher.Session.Mirrored` — what is seen of an operation on a path and on its bytes corresponds.

## Main results

* `Launcher.Directory.mirrors_create` and `mirrors_absolute`, `Launcher.WholeFile.mirrors_read?` and
  `mirrors_replace` — the operations.
* `Launcher.Session.mirrored_operations` — all of them, in a session.
-/

namespace Launcher

open Launcher.Action

variable {path named : Path}

/-! ## Directories -/

namespace Directory

/-- A directory is created alike by its path and by the bytes of it. -/
theorem mirrors_createOne (h : named ∈ path.chain) (mode : Int) :
    Mirrors path (Except.mapError OsError.inBytes) (createOne named mode)
      (createOne named.inBytes mode) := by
  refine Mirrors.bind (mirrors_makeDirectory h mode) fun result => ?_
  rcases result with e | ⟨⟩
  · simp only [mapError_error, OsError.errno_inBytes]
    refine Mirrors.ite (Mirrors.get_bind fun w w' hw => ?_) (Mirrors.pure _)
    have hplace : OsError.of .notDirectory (some named.inBytes) =
        (OsError.of .notDirectory (some named)).inBytes :=
      (OsError.inBytes_of .notDirectory (some named)).symm
    rw [hw.isDirectory_eq, hplace]
    exact Mirrors.ite (Mirrors.pure _) (Mirrors.pure _)
  · exact Mirrors.pure _

/-- Directories are created alike by their paths and by the bytes of these. -/
theorem mirrors_createAll (mode : Int) {paths : List Path}
    (h : ∀ named ∈ paths, named ∈ path.chain) :
    Mirrors path (Except.mapError OsError.inBytes) (createAll mode paths)
      (createAll mode (paths.map Path.inBytes)) := by
  induction paths with
  | nil => exact Mirrors.pure _
  | cons named paths ih =>
    obtain ⟨hnamed, hpaths⟩ := List.forall_mem_cons.1 h
    refine Mirrors.bind (mirrors_createOne hnamed mode) fun result => ?_
    rcases result with e | ⟨⟩
    · exact Mirrors.bind (mirrors_log _ _ _) fun _ => Mirrors.pure _
    · exact ih hpaths

/-- **Creating the directory of the bytes mirrors creating that of the path.** The bytes are cut
where the path is. -/
theorem mirrors_create (path : Path) (mode : Int) :
    Mirrors path (Except.mapError OsError.inBytes) (create path mode)
      (create path.inBytes mode) := by
  unfold create
  rw [Path.chain_inBytes]
  exact mirrors_createAll mode fun _ => id

/-- The working directory is told alike in both runs. -/
theorem mirrors_working : Mirrors path id working working := by
  refine Mirrors.bind mirrors_workingDirectory? fun result => ?_
  rcases result with e | directory
  · exact Mirrors.fail _
  · exact Mirrors.pure _

/-- **The bytes are made absolute to the bytes of what the path is made to.** -/
theorem mirrors_absolute (path : Path) :
    Mirrors path Path.inBytes (absolute path) (absolute path.inBytes) := by
  cases path with
  | text t =>
    by_cases h : isSettled slash t = true
    · have htext : absolute (.text t) = pure (.text t) := by
        rw [absolute, absoluteText, if_pos h, pure_bind]
      have hbytes : absolute (.bytes t.encode) = pure (.bytes t.encode) := by
        rw [absolute, isSettled_encode, if_pos h]
      rw [htext]
      exact hbytes ▸ Mirrors.pure _
    · have htext : absolute (.text t) = (do return .text (behind slash (← working) t)) := by
        rw [absolute, absoluteText, if_neg h, bind_assoc]
        rfl
      have hbytes : absolute (.bytes t.encode) =
          (do return Path.inBytes (.text (behind slash (← working) t))) := by
        rw [absolute, isSettled_encode, if_neg h]
        refine bind_congr fun directory => ?_
        rw [← behind_encode]
        rfl
      rw [htext]
      exact hbytes ▸ Mirrors.bind mirrors_working fun _ => Mirrors.pure _
  | bytes b =>
    show Mirrors _ _ (absolute (.bytes b)) (absolute (.bytes b))
    unfold absolute
    exact Mirrors.ite (Mirrors.pure _) (Mirrors.bind mirrors_working fun _ => Mirrors.pure _)

end Directory

/-! ## Whole files -/

namespace WholeFile

/-- An open file is read on alike in both runs. -/
theorem mirrors_readOn (fuel : Nat) (reader : Reader) (chunks : List Bytes) :
    Mirrors path id (readOn fuel reader chunks) (readOn fuel reader chunks) := by
  induction fuel generalizing reader chunks with
  | zero => exact Mirrors.throw _
  | succ fuel ih =>
    refine Mirrors.bind (mirrors_read reader chunkSize) fun result => ?_
    rcases result with e | ⟨_ | ⟨byte, chunk⟩, rest⟩
    · exact Mirrors.ite (ih _ _) (Mirrors.pure _)
    · exact Mirrors.pure _
    · exact ih _ _

/-- As many reads are tried under plans that mirror each other. -/
theorem readLimit_of_mirrors {w w' : World} (h : w.Mirrors path w') (reader : Reader) :
    readLimit w'.machine reader = readLimit w.machine reader := by
  have hconcerns : (Call.read chunkSize).Concerns path :=
    (Call.concerns_of_path?_eq_none rfl path).1
  have hlast : Fault.lastNumber w'.machine.faults (.read chunkSize) =
      Fault.lastNumber w.machine.faults (.read chunkSize) :=
    Fault.lastNumber_of_mirrors h.faults hconcerns
  cases reader <;> simp only [readLimit, hlast]

/-- What has been read is closed alike in both runs. -/
theorem mirrors_closing (read : Option Bytes) : Mirrors path id (closing read) (closing read) := by
  refine Mirrors.bind mirrors_close fun closed => ?_
  rcases closed with e | ⟨⟩
  · exact Mirrors.fail _
  · exact Mirrors.pure _

/-- An open file is read to its end alike by its path and by the bytes of it. -/
theorem mirrors_readOpened (named : Path) (reader : Reader) :
    Mirrors path id (readOpened named reader) (readOpened named.inBytes reader) := by
  refine Mirrors.get_bind fun w w' hw => ?_
  rw [readLimit_of_mirrors hw]
  refine Mirrors.bind (mirrors_readOn _ _ _) fun result => ?_
  rcases result with e | content
  · exact Mirrors.bind (mirrors_log _ _ _) fun _ => mirrors_closing none
  · exact mirrors_closing (some content)

/-- **Reading the file of the bytes mirrors reading that of the path**, and gives the same data. -/
theorem mirrors_read? (path : Path) :
    Mirrors path id (read? path) (read? path.inBytes) := by
  rw [read?_eq, read?_eq]
  refine Mirrors.bind (mirrors_openToRead path.mem_chain_self) fun opened => ?_
  rcases opened with e | reader
  · exact Mirrors.bind (mirrors_log _ _ _) fun _ => Mirrors.pure _
  · exact mirrors_readOpened path reader

/-- The outcome of a write is judged alike, with the path of the error spelled in bytes. -/
theorem mirrors_verdict (named : Path) (content : Bytes) (written : Except OsError Nat)
    (closed : Except OsError Unit) :
    Mirrors path (Except.mapError OsError.inBytes) (verdict named content written closed)
      (verdict named.inBytes content (written.mapError OsError.inBytes)
        (closed.mapError OsError.inBytes)) := by
  rcases written with e | n
  · exact Mirrors.pure _
  · rcases closed with e | ⟨⟩
    · exact Mirrors.pure _
    · exact Mirrors.ite (Mirrors.pure _) (Mirrors.bind (mirrors_log _ _ _) fun _ => Mirrors.pure _)

/-- A new file is written alike by its path and by the bytes of it. -/
theorem mirrors_writeNew (h : named ∈ path.chain) (content : Bytes) :
    Mirrors path (Except.mapError OsError.inBytes) (writeNew named content)
      (writeNew named.inBytes content) := by
  refine Mirrors.bind (mirrors_openToWrite h) fun opened => ?_
  rcases opened with e | location
  · exact Mirrors.pure _
  · exact Mirrors.bind (mirrors_write location content) fun written =>
      Mirrors.bind mirrors_close_inBytes fun closed => mirrors_verdict named content written closed

/-- **Replacing the file of the bytes mirrors replacing that of the path.** -/
theorem mirrors_replace (path : Path) (content : Bytes) :
    Mirrors path (Except.mapError OsError.inBytes) (replace path content)
      (replace path.inBytes content) := by
  rw [replace_eq, replace_eq]
  refine Mirrors.bind (mirrors_unlink path.mem_chain_self) fun removed => ?_
  rcases removed with e | ⟨⟩
  · simp only [mapError_error, OsError.errno_inBytes]
    exact Mirrors.ite (Mirrors.pure _) (mirrors_writeNew path.mem_chain_self content)
  · exact mirrors_writeNew path.mem_chain_self content

end WholeFile

/-! ## In a session -/

namespace Session

/-- The session with other planned faults. -/
def withFaults (s : Session) (faults : List Fault) : Session :=
  { s with machine := { s.machine with faults } }

/-- What is seen of an operation on the bytes of a path is what is seen of it on the path: the
results correspond by `f`, and stops are the same; the same nodes of the tree have changed, and the
same machine is left; the same calls were made, with the bytes of their paths and with the same
answers. The logs have records of the same levels. -/
structure Mirrored {α β : Type} (f : α → β) (outcome : Observation α × Session)
    (outcome' : Observation β × Session) : Prop where
  result : outcome'.1.result = outcome.1.result.map f
  changes : outcome'.1.changes = outcome.1.changes
  process : outcome'.1.process =
    { outcome.1.process with
      log := outcome'.1.process.log
      trace := outcome.1.process.trace.map fun (c, answer) => (c.inBytes, answer) }
  levels : outcome'.1.process.log.map LogRecord.level = outcome.1.process.log.map LogRecord.level
  session : outcome'.2 = outcome.2.withFaults outcome'.2.machine.faults

/-- Actions that mirror each other are seen to. -/
theorem mirrored_of_mirrors {α β : Type} {f : α → β} {first : Action α} {second : Action β}
    (h : Mirrors path f first second) (s : Session) {faults : List Fault}
    (hfaults : List.Forall₂ (Fault.Mirrors path) s.machine.faults faults) :
    Mirrored f (s.perform first) ((s.withFaults faults).perform second) := by
  have hworld : s.world.Mirrors path (s.withFaults faults).world := ⟨rfl, hfaults, rfl, rfl⟩
  obtain ⟨hresult, hmirrors⟩ := h _ _ hworld
  refine ⟨hresult, ?_, hmirrors.process_eq, hmirrors.levels_eq, ?_⟩
  · show sortedChanges s.machine.tree (exec second (s.withFaults faults).world).2.machine.tree =
      sortedChanges s.machine.tree (exec first s.world).2.machine.tree
    rw [hmirrors.machine_eq]
  · show ({ s.withFaults faults with
      machine := (exec second (s.withFaults faults).world).2.machine } : Session) = _
    rw [hmirrors.machine_eq]
    rfl

/-- **Texts and bytes are the same as paths.** Every plan of faults is mirrored by some other one,
and by itself if no fault asks for a path. Under plans that mirror each other a text and its bytes
are made absolute to a text and its bytes, or neither is; directories are created for both, files
are read and replaced, with the same effect, data and error numbers.

**Proof sketch.** The byte of a slash is part of no other symbol, so the bytes are cut where the
text is (`beginnings_encode`, `behind_encode`). A call looks at the bytes of its path alone
(`Action.mirrors_call`), and what is made of calls that mirror each other does so
(`Action.Mirrors.bind`). -/
theorem mirrored_operations (s : Session) (t : Text) :
    (∃ faults, List.Forall₂ (Fault.Mirrors (.text t)) s.machine.faults faults) ∧
      ((∀ fault ∈ s.machine.faults, fault.path = none) →
        List.Forall₂ (Fault.Mirrors (.text t)) s.machine.faults s.machine.faults) ∧
      ∀ faults, List.Forall₂ (Fault.Mirrors (.text t)) s.machine.faults faults →
        Mirrored Path.inBytes (s.perform (Directory.absolute (.text t)))
            ((s.withFaults faults).perform (Directory.absolute (.bytes t.encode))) ∧
          (∀ mode, Mirrored (Except.mapError OsError.inBytes)
            (s.perform (Directory.create (.text t) mode))
            ((s.withFaults faults).perform (Directory.create (.bytes t.encode) mode))) ∧
          Mirrored id (s.perform (WholeFile.read? (.text t)))
            ((s.withFaults faults).perform (WholeFile.read? (.bytes t.encode))) ∧
          ∀ content, Mirrored (Except.mapError OsError.inBytes)
            (s.perform (WholeFile.replace (.text t) content))
            ((s.withFaults faults).perform (WholeFile.replace (.bytes t.encode) content)) := by
  refine ⟨⟨s.machine.faults.map (Fault.inBytes (.text t)), ?_⟩, ?_, fun faults hfaults =>
    ⟨?_, fun mode => ?_, ?_, fun content => ?_⟩⟩
  · exact List.forall₂_map_right_iff.2
      (List.forall₂_same.2 fun fault _ => Fault.mirrors_inBytes (.text t) fault)
  · exact fun hnone => List.forall₂_same.2 fun fault hmem => Fault.mirrors_self (hnone fault hmem)
  · exact mirrored_of_mirrors (Directory.mirrors_absolute (.text t)) s hfaults
  · exact mirrored_of_mirrors (Directory.mirrors_create (.text t) mode) s hfaults
  · exact mirrored_of_mirrors (WholeFile.mirrors_read? (.text t)) s hfaults
  · exact mirrored_of_mirrors (WholeFile.mirrors_replace (.text t) content) s hfaults

/-- A fault that strikes the directory `/é`, spelled as a text. -/
def strikesText : Fault := ⟨.makeDirectory, none, some (.text (lit "/é")), .fail .accessDenied⟩

/-- The same fault with the path in bytes. -/
def strikesBytes : Fault := { strikesText with path := some (.bytes [0x2F, 0xC3, 0xA9]) }

/-- On the way to a directory with a name that is no UTF-8, both faults strike the same call. -/
theorem mirrored_operations_stray_byte :
    List.Forall₂ (Fault.Mirrors (.text (lit "/é/" ++ [.raw (Fin.last 0x7F)])))
        [strikesText] [strikesBytes] ∧
      Mirrored (Except.mapError OsError.inBytes)
        ((onlyTrue.withFaults [strikesText]).perform
          (Directory.create (.text (lit "/é/" ++ [.raw (Fin.last 0x7F)])) 0o755))
        ((onlyTrue.withFaults [strikesBytes]).perform
          (Directory.create (.bytes [0x2F, 0xC3, 0xA9, 0x2F, 0xFF]) 0o755)) :=
  have h : List.Forall₂ (Fault.Mirrors (.text (lit "/é/" ++ [.raw (Fin.last 0x7F)])))
      [strikesText] [strikesBytes] := .cons (Fault.mirrors_inBytes _ strikesText) .nil
  ⟨h, ((mirrored_operations (onlyTrue.withFaults [strikesText])
    (lit "/é/" ++ [.raw (Fin.last 0x7F)])).2.2 [strikesBytes] h).2.1 0o755⟩

end Session

end Launcher
