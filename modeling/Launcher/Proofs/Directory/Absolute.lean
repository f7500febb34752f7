import Launcher.Proofs.Directory.Parents
import Launcher.Proofs.Machine.Spelling
import Launcher.Proofs.Run.WorkingDirectory

/-!
# Paths seen from the root

A path is made absolute by its spelling alone: the working directory is put in front of it. Where
the path of the working directory leads to the working directory, the longer path names the same
node as the shorter one did, or fails to for the same reason, and it goes on doing so in any other
working directory and without one. Made absolute again it stays what it is, and nobody asks for the
working directory.

## Main definitions

* `Launcher.World.toldDirectory` — what the system answers to the question for the working
  directory.
* `Launcher.Machine.IsLedTo` — the path of a directory leads to it.
* `Launcher.Directory.KeepsMeaning` — one path means from everywhere what another one means here.

## Main results

* `Launcher.Machine.resolve_behind` — a path behind the working directory.
* `Launcher.Directory.exec_absolute_of_isSettled`, `exists_exec_absolute` and
  `exec_absolute_of_error` — what comes of making a path absolute.
* `Launcher.Directory.absolute_keeps_meaning` — it means the same.
-/

namespace Launcher

open Launcher.Action

/-! ## The names of a path behind a directory -/

namespace Location

/-- A path that is not empty and does not begin at the root has a name. -/
theorem names_ne_nil {path : Bytes} (hne : path ≠ []) (hroot : path.head? ≠ some slashByte) :
    names path ≠ [] := by
  induction path using sep_induction slashByte with
  | free p hp => rw [names_of_not_mem hp hne]; exact List.cons_ne_nil p []
  | cut p l hp ih =>
    have hfirst : p ≠ [] := by
      rintro rfl
      exact hroot rfl
    rw [names_append_cons, names_of_not_mem hp hfirst]
    exact List.cons_ne_nil p _

/-- Behind a directory the names of a path go on from those of the directory. -/
theorem names_behind (directory path : Bytes) :
    names (behind slashByte directory path) = names directory ++ names path := by
  unfold behind
  split
  · rename_i hslash
    obtain ⟨front, rfl⟩ := List.getLast?_eq_some_iff.1 hslash
    rw [List.append_nil, List.append_assoc, List.singleton_append, names_append_cons,
      names_append_cons, names_nil, List.append_nil]
  · rw [List.append_assoc, List.singleton_append, names_append_cons]

end Location

/-! ## Looking up behind a directory -/

namespace Machine

variable {m : Machine} {path : Bytes} {directory : Text}

/-- What a path within the limit names is where the walk along its names ends. -/
theorem resolve_eq_map_walk (hne : path ≠ []) (hlength : path.length < pathLimit)
    {start : Location} (hstart : m.start path = .ok start) :
    m.resolve path = (m.tree.walk start (Location.names path)).map (targetOf path) := by
  have hlong : ¬pathLimit ≤ path.length := Nat.not_le.2 hlength
  unfold resolve
  simp only [List.isEmpty_iff, hne, hlong, if_false, hstart]
  rcases hwalk : m.tree.walk start (Location.names path) with e | location
  · simp [hwalk, Except.map]
  · simp [hwalk, Except.map, targetOf]

/-- The path of the directory begins at the root and leads to the place that it spells, which is
where paths are looked up in the directory. -/
structure IsLedTo (m : Machine) (directory : Text) : Prop where
  isFromRoot : directory.head? = some slash
  resolves : ∃ target, m.resolve directory.encode = .ok target

/-- A path behind a directory ends as the path does. -/
theorem targetOf_behind (hne : path ≠ []) (hroot : path.head? ≠ some slashByte)
    (directory : Bytes) : targetOf (behind slashByte directory path) = targetOf path := by
  have hlast : (behind slashByte directory path).getLast? = path.getLast? :=
    List.getLast?_append_of_ne_nil _ hne
  have hnames : (Location.names (behind slashByte directory path)).getLast? =
      (Location.names path).getLast? := by
    rw [Location.names_behind]
    exact List.getLast?_append_of_ne_nil _ (Location.names_ne_nil hne hroot)
  funext location
  unfold targetOf
  rw [hlast, hnames]

/-- **Behind the path of the working directory a path names from everywhere what it names in the
working directory.** -/
theorem resolve_behind (hworking : m.workingDirectory = some directory) (h : m.IsLedTo directory)
    (hne : path ≠ []) (hroot : path.head? ≠ some slashByte)
    (hlength : (behind slashByte directory.encode path).length < pathLimit)
    (elsewhere : Option Text) :
    (m.inDirectory elsewhere).resolve (behind slashByte directory.encode path) =
      m.resolve path := by
  obtain ⟨target, hresolve⟩ := h.resolves
  have hhead : directory.encode.head? = some slashByte := Text.head?_encode_of_head? h.isFromRoot
  obtain ⟨rest, hrest⟩ := List.head?_eq_some_iff.1 hhead
  have hfront : (behind slashByte directory.encode path).head? = some slashByte := by
    simp [behind, hrest]
  -- The walk along the path of the working directory ends where the other lookup begins.
  obtain ⟨-, -, start, here, hstart, hwalk, -⟩ := resolve_eq_ok.1 hresolve
  rw [start_of_head?_eq_slashByte m hhead] at hstart
  cases hstart
  have hhere : here = Location.ofPath directory.encode := Tree.eq_foldl_of_walk hwalk
  have hstart : m.start path = .ok here := by
    rw [Machine.start, if_neg hroot, hworking, hhere]
  have hshort : path.length < pathLimit := by
    have hbehind : path.length ≤ (behind slashByte directory.encode path).length :=
      (List.suffix_append _ path).length_le
    omega
  calc (m.inDirectory elsewhere).resolve (behind slashByte directory.encode path)
      = (m.tree.walk [] (Location.names directory.encode ++ Location.names path)).map
          (targetOf path) := by
        rw [resolve_eq_map_walk (by simp [behind, hrest]) hlength
          (start_of_head?_eq_slashByte _ hfront), Location.names_behind, targetOf_behind hne hroot]
        rfl
    _ = (m.tree.walk here (Location.names path)).map (targetOf path) := by
        rw [Tree.walk_append _ hwalk]
    _ = m.resolve path := (resolve_eq_map_walk hne hshort hstart).symm

end Machine

/-! ## Asking for the working directory -/

/-- What the system answers to the question for the working directory: the error of a fault that
strikes it, if one does, and else its path, unless it has been deleted. -/
def World.toldDirectory (w : World) : Except Errno Text :=
  match Fault.strike? w.machine.faults .workingDirectory
      (w.machine.made.count .workingDirectory + 1) with
  | some (.fail e) => .error e
  | some (.short _) | none =>
      match w.machine.workingDirectory with
      | some directory => .ok directory
      | none => .error .noEntry

namespace Directory

variable {path q : Path} {directory : Text} {e : Errno} {w : World}

/-- How a launch stops that needs the working directory and is told an error instead. -/
def unavailable (e : Errno) : Stop :=
  .failed (.because .environment (lit "getcwd() failed") (.of e none))

/-- It ends with the exit code for the environment and the number of the error. The numbers of the
system have 32 bits. -/
theorem unavailable_eq_fatal (h : Numeral.fitsInt32 e.number = true) :
    unavailable e = .failed (.fatal
      { exitCode := 36, message := lit "getcwd() failed", errno := some e.number
        reason := some (lit (Errno.describe e.number)) }) := by
  simp [unavailable, Failure.because, Fatal.ofOsError, Fatal.ofErrno, OsError.errno, OsError.of, h,
    ExitCode.number]

/-- A process is told what the system answers. The question leaves no trace. -/
theorem exec_working (w : World) :
    exec working w = match w.toldDirectory with
      | .ok directory => (.ok directory, w.afterCall .workingDirectory .ok)
      | .error e => (.error (unavailable e), w.afterCall .workingDirectory (.error e)) := by
  have hcount : (w.machine.counted .workingDirectory).made.count (Call.kind .workingDirectory) =
      w.machine.made.count .workingDirectory + 1 := List.count_cons_self
  unfold working workingDirectory? World.toldDirectory
  rw [exec_bind, exec_call, Machine.respond, hcount]
  have hfaults : (w.machine.counted .workingDirectory).faults = w.machine.faults := rfl
  have hworking : (w.machine.counted .workingDirectory).workingDirectory =
      w.machine.workingDirectory := rfl
  rw [hfaults]
  rcases Fault.strike? w.machine.faults .workingDirectory
    (w.machine.made.count .workingDirectory + 1) with _ | e | limit
  · simp only [hworking]
    rcases w.machine.workingDirectory with _ | directory <;> rfl
  · rfl
  · simp only [hworking]
    rcases w.machine.workingDirectory with _ | directory <;> rfl

/-- **A path that is settled stays as it is,** and nobody asks for the working directory. -/
theorem exec_absolute_of_isSettled (h : isSettled slashByte path.toBytes = true) (w : World) :
    exec (absolute path) w = (.ok path, w) := by
  cases path with
  | text t =>
    have hsettled : isSettled slash t = true := (isSettled_encode t).symm.trans h
    rw [absolute, absoluteText, if_pos hsettled, pure_bind, exec_pure]
  | bytes b =>
    have hsettled : isSettled slashByte b = true := h
    rw [absolute, if_pos hsettled, exec_pure]

/-- **Any other path is put behind the working directory.** -/
theorem exists_exec_absolute (h : ¬isSettled slashByte path.toBytes = true)
    (hdirectory : w.toldDirectory = .ok directory) :
    ∃ q, (exec (absolute path) w).1 = .ok q ∧
      q.toBytes = behind slashByte directory.encode path.toBytes := by
  have hworking := exec_working w
  rw [hdirectory] at hworking
  cases path with
  | text t =>
    have hsettled : ¬isSettled slash t = true := fun ht => h ((isSettled_encode t).trans ht)
    refine ⟨.text (behind slash directory t), ?_, behind_encode directory t⟩
    rw [absolute, absoluteText, if_neg hsettled, bind_assoc, exec_bind_of_ok hworking]
    rfl
  | bytes b =>
    have hsettled : ¬isSettled slashByte b = true := h
    refine ⟨.bytes (behind slashByte directory.encode b), ?_, rfl⟩
    rw [absolute, if_neg hsettled, exec_bind_of_ok hworking]
    rfl

/-- **Without a working directory it is not made absolute.** -/
theorem exec_absolute_of_error (h : ¬isSettled slashByte path.toBytes = true)
    (herror : w.toldDirectory = .error e) :
    (exec (absolute path) w).1 = .error (unavailable e) := by
  have hworking := exec_working w
  rw [herror] at hworking
  cases path with
  | text t =>
    have hsettled : ¬isSettled slash t = true := fun ht => h ((isSettled_encode t).trans ht)
    rw [absolute, absoluteText, if_neg hsettled, bind_assoc, exec_bind_of_error hworking]
  | bytes b =>
    have hsettled : ¬isSettled slashByte b = true := h
    rw [absolute, if_neg hsettled, exec_bind_of_error hworking]

/-! ## What an absolute path means -/

/-- **One path means from everywhere what another one means on the machine:** it begins at the root;
in any working directory, and without one, it names the place and the node that the other path
names, or fails to with the same error, if it is not too long; and it is not changed by being made
absolute, for which nothing is asked. -/
structure KeepsMeaning (m : Machine) (path q : Path) : Prop where
  isFromRoot : q.IsFromRoot
  resolve : q.toBytes.length < pathLimit → ∀ directory,
    (m.inDirectory directory).resolve q.toBytes = m.resolve path.toBytes
  status : q.toBytes.length < pathLimit → ∀ directory,
    (m.inDirectory directory).status q.toBytes = m.status path.toBytes
  stable : ∀ later, exec (absolute q) later = (.ok q, later)

/-- A path that names the same place from everywhere keeps its meaning. -/
theorem keepsMeaning_of_resolve {m : Machine} (hroot : q.IsFromRoot)
    (h : q.toBytes.length < pathLimit → ∀ directory,
      (m.inDirectory directory).resolve q.toBytes = m.resolve path.toBytes) :
    KeepsMeaning m path q where
  isFromRoot := hroot
  resolve := h
  status hlength directory := by
    unfold Machine.status
    rw [h hlength directory]
    rfl
  stable := by
    have hhead : q.toBytes.head? = some slashByte := hroot
    exact exec_absolute_of_isSettled (by simp [isSettled, hhead])

/-- **Making a path absolute keeps its meaning.** Where the path of the working directory leads to
it, what a path that is not empty is made to means from everywhere what the path means in the
working directory. Only a path that is neither empty nor from the root stops the launch, and only if
the working directory cannot be told: then with the exit code for the environment and the number of
the error.

**Proof sketch.** A path that begins at the root stays as it is, and is looked up without the
working directory. Behind the path of the working directory the names of any other path go on from
those of the directory, so the walk along them comes by the working directory
(`Machine.resolve_behind`). -/
theorem absolute_keeps_meaning (path : Path) (w : World)
    (hworking : ∀ directory, w.toldDirectory = .ok directory → w.machine.IsLedTo directory) :
    (path.toBytes ≠ [] → ∀ q, (exec (absolute path) w).1 = .ok q →
      KeepsMeaning w.machine path q) ∧
    (∀ stop, (exec (absolute path) w).1 = .error stop ↔
      path.toBytes ≠ [] ∧ ¬path.IsFromRoot ∧
        ∃ e, w.toldDirectory = .error e ∧ stop = unavailable e) ∧
    ∀ e, Numeral.fitsInt32 e.number = true → unavailable e = .failed (.fatal
      { exitCode := 36, message := lit "getcwd() failed", errno := some e.number
        reason := some (lit (Errno.describe e.number)) }) := by
  have hsettled : isSettled slashByte path.toBytes = true ↔
      path.toBytes = [] ∨ path.IsFromRoot := by
    simp [isSettled, Path.IsFromRoot]
  refine ⟨fun hne q hq => ?_, fun stop => ⟨fun hstop => ?_, ?_⟩, fun e => unavailable_eq_fatal⟩
  · by_cases hroot : path.IsFromRoot
    · rw [exec_absolute_of_isSettled (hsettled.2 (Or.inr hroot))] at hq
      cases hq
      exact keepsMeaning_of_resolve hroot fun _ directory =>
        (Machine.isUnnoticedAlong_inDirectory hroot directory).resolve_change w.machine
    · have hunsettled : ¬isSettled slashByte path.toBytes = true :=
        fun h => (hsettled.1 h).elim hne hroot
      rcases htold : w.toldDirectory with e | directory
      · rw [exec_absolute_of_error hunsettled htold] at hq
        cases hq
      · obtain ⟨q', hq', hbytes⟩ := exists_exec_absolute hunsettled htold
        obtain rfl : q' = q := Except.ok.inj (hq'.symm.trans hq)
        have hanswer : exec working w = (.ok directory, w.afterCall .workingDirectory .ok) := by
          rw [exec_working, htold]
        have hled := hworking directory htold
        obtain ⟨rest, hrest⟩ :=
          List.head?_eq_some_iff.1 (Text.head?_encode_of_head? hled.isFromRoot)
        have hfromRoot : q'.IsFromRoot := by
          simp [Path.IsFromRoot, hbytes, behind, hrest]
        refine keepsMeaning_of_resolve hfromRoot fun hlength elsewhere => ?_
        rw [hbytes] at hlength ⊢
        exact Machine.resolve_behind (workingDirectory_of_exec_working hanswer) hled hne hroot
          hlength elsewhere
  · have hunsettled : ¬isSettled slashByte path.toBytes = true := by
      intro h
      rw [exec_absolute_of_isSettled h] at hstop
      cases hstop
    have hneither := not_or.1 fun h => hunsettled (hsettled.2 h)
    refine ⟨hneither.1, hneither.2, ?_⟩
    rcases htold : w.toldDirectory with e | directory
    · rw [exec_absolute_of_error hunsettled htold] at hstop
      exact ⟨e, rfl, (Except.error.inj hstop).symm⟩
    · obtain ⟨q, hq, -⟩ := exists_exec_absolute hunsettled htold
      rw [hq] at hstop
      cases hstop
  · rintro ⟨hne, hroot, e, htold, rfl⟩
    exact exec_absolute_of_error (fun h => (hsettled.1 h).elim hne hroot) htold

/-- The path of a program, seen from the home directory, names the program where there is no working
directory. -/
theorem absolute_keeps_meaning_home :
    (∀ directory, atHome.toldDirectory = .ok directory → atHome.machine.IsLedTo directory) ∧
      (exec (absolute (.text (lit "../bin/./true"))) atHome).1 =
        .ok (.text (lit "/home/../bin/./true")) ∧
      (atHome.machine.inDirectory none).status (lit "/home/../bin/./true").encode =
        atHome.machine.status (lit "../bin/./true").encode ∧
      atHome.machine.status (lit "../bin/./true").encode = .ok (.file 0o755 []) := by
  have hworking : ∀ directory, atHome.toldDirectory = .ok directory →
      atHome.machine.IsLedTo directory := by
    intro directory hdirectory
    have htold : atHome.toldDirectory = .ok (lit "/home") := rfl
    obtain rfl := Except.ok.inj (htold.symm.trans hdirectory)
    exact ⟨rfl, ⟨[(lit "home").encode], false, false⟩, rfl⟩
  have hexec : (exec (absolute (.text (lit "../bin/./true"))) atHome).1 =
      .ok (.text (lit "/home/../bin/./true")) := rfl
  have hmeaning := (absolute_keeps_meaning (.text (lit "../bin/./true")) atHome hworking).1
    (by decide) _ hexec
  exact ⟨hworking, hexec, hmeaning.status (by decide) none, rfl⟩

end Directory

end Launcher
