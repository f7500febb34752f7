import Launcher.Directory
import Launcher.Proofs.Machine.Spelling
import Launcher.Proofs.Run.Frame
import Launcher.Proofs.Run.Returns
import Launcher.Proofs.Run.Trace
import Launcher.Proofs.Text.Decoding

/-!
# Creating directories and making paths absolute

What `Launcher.Directory` changes in the world and what holds once it is done.

## Main results

* `Launcher.Directory.keeps_nodeAt_create` — creating a directory does not touch what lies deeper.
* `Launcher.Directory.isDirectory_of_exec_create` — a directory that has been created is there.
* `Launcher.Directory.exec_createAll_of_isDirectory` and
  `Launcher.Directory.isDirectory_of_mem_beginnings` — creating where all directories are, and when
  they are.
* `Launcher.Directory.returns_create` and `Launcher.Directory.exec_create_of_not_fits` — creating a
  directory with a mode in range, and with one that is not.
* `Launcher.Directory.isSettled_of_exec_absoluteText` — a path that has been made absolute is so.
-/

namespace Launcher

open Launcher.Action

namespace Location

/-- A beginning of a path spells no deeper place than the path, if `..` does not lead back up. -/
theorem length_ofPath_le_of_mem_beginnings {base start : Text}
    (hbase : dotDot ∉ names base.encode) (h : start ∈ beginnings slash base) :
    (ofPath start.encode).length ≤ (ofPath base.encode).length := by
  obtain ⟨-, rest, rfl, hrest⟩ := exists_append_of_mem_beginnings h
  rcases hrest with rfl | hhead
  · exact Nat.le_of_eq (by rw [List.append_nil])
  · obtain ⟨tail, rfl⟩ := List.head?_eq_some_iff.1 hhead
    have hencode : Text.encode (start ++ slash :: tail) =
        Text.encode start ++ slashByte :: Text.encode tail := Text.encode_append _ _
    rw [hencode, names_append_cons] at hbase
    have htail : dotDot ∉ names (Text.encode tail) := fun h => hbase (List.mem_append_right _ h)
    rw [hencode, ofPath, ofPath, names_append_cons, List.foldl_append]
    exact length_le_length_foldl_step htail _

end Location

namespace Directory

variable {path start : Path} {paths : List Path} {base : Text} {mode : Int} {location : Location}
  {codes : List ExitCode} {w w' : World}

/-! ## One directory -/

/-- Creating one directory changes the tree and the trace at most, and ends no launch. -/
theorem keeps_createOne (path : Path) (mode : Int) :
    Keeps (World.besides [.tree, .trace]) codes (createOne path mode) := by
  refine Keeps.bind (keeps_makeDirectory path mode) fun result => ?_
  rcases result with e | ⟨⟩
  · exact Keeps.ite (Keeps.bind Keeps.get fun _ => Keeps.ite (Keeps.pure _) (Keeps.pure _))
      (Keeps.pure _)
  · exact Keeps.pure _

/-- Creating a directory leaves a location alone that its path leads to on no machine. -/
theorem keeps_nodeAt_createOne (mode : Int)
    (h : ∀ m target, Machine.resolve m path.toBytes = .ok target → target.location ≠ location) :
    Keeps (World.nodeAt location) codes (createOne path mode) := by
  refine Keeps.bind (keeps_nodeAt_makeDirectory mode h) fun result => ?_
  rcases result with e | ⟨⟩
  · exact Keeps.ite (Keeps.bind Keeps.get fun _ => Keeps.ite (Keeps.pure _) (Keeps.pure _))
      (Keeps.pure _)
  · exact Keeps.pure _

/-- A call that has created a directory has put one where its path leads. -/
theorem isDirectory_of_exec_makeDirectory
    (h : exec (makeDirectory path mode) w = (.ok (.ok ⟨⟩), w')) :
    w'.machine.isDirectory path = true := by
  obtain ⟨_, w₁, hzero, hrest⟩ := exec_bind_eq_ok.1 h
  obtain ⟨hnozero, rfl⟩ := of_exec_requireNoZero hzero
  obtain ⟨-, hcall⟩ := exec_unlessRefused_eq_ok hrest
  obtain ⟨_, heffect⟩ := exists_effect_of_exec_call hcall
  rcases hmake : (w₁.machine.counted (.makeDirectory path mode)).makeDirectory path.toBytes mode
    with e | after
  · rw [hmake] at heffect
    cases heffect
  · rw [hmake] at heffect
    cases heffect
    exact Machine.isDirectory_of_makeDirectory hnozero hmake

/-- A directory that counts as created is there. -/
theorem isDirectory_of_exec_createOne
    (h : exec (createOne path mode) w = (.ok (.ok ⟨⟩), w')) :
    w'.machine.isDirectory path = true := by
  obtain ⟨result, w₁, hmake, hrest⟩ := exec_bind_eq_ok.1 h
  rcases result with e | ⟨⟩
  · by_cases hexists : e.errno = some (Errno.alreadyExists.number : Int)
    · simp only [if_pos hexists] at hrest
      by_cases hdirectory : w₁.machine.isDirectory path = true
      · simp [exec_bind, hdirectory] at hrest
        exact hrest ▸ hdirectory
      · simp [exec_bind, hdirectory] at hrest
    · simp [if_neg hexists] at hrest
  · cases hrest
    exact isDirectory_of_exec_makeDirectory hmake

/-! ## A directory and those on the way to it -/

/-- Creating directories one after the other changes the tree, the log and the trace at most, and
ends no launch. -/
theorem keeps_createAll (mode : Int) (paths : List Path) :
    Keeps (World.besides [.tree, .log, .trace]) codes (createAll mode paths) := by
  induction paths with
  | nil => exact Keeps.pure _
  | cons path paths ih =>
    refine Keeps.bind (keeps_createOne path mode).widen fun result => ?_
    rcases result with e | ⟨⟩
    · exact Keeps.bind (keeps_log _ _).widen fun _ => Keeps.pure _
    · exact ih

/-- Creating directories leaves a location alone that none of their paths leads to. -/
theorem keeps_nodeAt_createAll (mode : Int) {paths : List Path}
    (h : ∀ path ∈ paths, ∀ m target, Machine.resolve m path.toBytes = .ok target →
      target.location ≠ location) : Keeps (World.nodeAt location) codes (createAll mode paths) := by
  induction paths with
  | nil => exact Keeps.pure _
  | cons path paths ih =>
    obtain ⟨hpath, hpaths⟩ := List.forall_mem_cons.1 h
    refine Keeps.bind (keeps_nodeAt_createOne mode hpath) fun result => ?_
    rcases result with e | ⟨⟩
    · exact Keeps.bind ((keeps_log _ _).nodeAt location) fun _ => Keeps.pure _
    · exact ih hpaths

/-- The last of the directories that have been created is there. -/
theorem isDirectory_of_exec_createAll {paths : List Path}
    (h : exec (createAll mode (paths ++ [path])) w = (.ok (.ok ⟨⟩), w')) :
    w'.machine.isDirectory path = true := by
  induction paths generalizing w with
  | nil =>
    obtain ⟨result, w₁, hcreate, hrest⟩ := exec_bind_eq_ok.1 h
    rcases result with e | ⟨⟩
    · obtain ⟨_, _, -, hreturn⟩ := exec_bind_eq_ok.1 hrest
      cases hreturn
    · cases hrest
      exact isDirectory_of_exec_createOne hcreate
  | cons first paths ih =>
    obtain ⟨result, w₁, hcreate, hrest⟩ := exec_bind_eq_ok.1 h
    rcases result with e | ⟨⟩
    · obtain ⟨_, _, -, hreturn⟩ := exec_bind_eq_ok.1 hrest
      cases hreturn
    · exact ih hrest

/-- Creating a path with all that leads to it changes the tree, the log and the trace at most, and
ends no launch. -/
theorem keeps_create (path : Path) (mode : Int) :
    Keeps (World.besides [.tree, .log, .trace]) codes (create path mode) :=
  keeps_createAll mode path.chain

/-- **A directory that has been created is there.** -/
theorem isDirectory_of_exec_create (h : exec (create (.text base) mode) w = (.ok (.ok ⟨⟩), w')) :
    w'.machine.isDirectory (.text base) = true := by
  obtain ⟨shorter, hshorter⟩ := exists_beginnings_eq_append slash base
  rw [create, Path.chain, hshorter, List.map_append] at h
  exact isDirectory_of_exec_createAll h

/-- **Creating a directory does not touch what lies deeper,** whether it succeeds or not. -/
theorem keeps_nodeAt_create (mode : Int) (hsettled : isSettled slash base = true)
    (hbase : Location.dotDot ∉ Location.names base.encode)
    (hdeep : (Location.ofPath base.encode).length < location.length) :
    Keeps (World.nodeAt location) codes (create (.text base) mode) := by
  refine keeps_nodeAt_createAll mode fun path hpath m target hresolve => ?_
  obtain ⟨start, hstart, rfl⟩ := List.mem_map.1 hpath
  have hresolve' : m.resolve start.encode = .ok target := hresolve
  obtain ⟨hhead, -⟩ := exists_append_of_mem_beginnings hstart
  have hnonempty : start ≠ [] := by
    rintro rfl
    exact (Machine.resolve_eq_ok.1 hresolve').1 rfl
  have hroot : start.head? = some slash := by
    rw [hhead]
    rcases Bool.or_eq_true_iff.1 hsettled with hempty | habsolute
    · obtain rfl := List.isEmpty_iff.1 hempty
      exact absurd (List.mem_singleton.1 hstart) hnonempty
    · exact beq_iff_eq.1 habsolute
  have hlocation : target.location = Location.ofPath start.encode :=
    Machine.location_of_resolve (Text.head?_encode_of_head? hroot) hresolve'
  have hlength := Location.length_ofPath_le_of_mem_beginnings hbase hstart
  rw [hlocation]
  intro heq
  rw [heq] at hlength
  omega

/-! ## Directories that are there -/

/-- Where a directory is, creating it changes nothing. -/
theorem exec_createOne_of_isDirectory (hfaults : w.faults = [])
    (hfits : Numeral.fitsInt32 mode = true) (h : w.machine.isDirectory path = true) :
    exec (createOne path mode) w =
      (.ok (.ok ⟨⟩), w.afterCall (.makeDirectory path mode) (.error .alreadyExists)) := by
  have hzero := (Machine.isDirectory_eq_true.1 h).1
  have hcounted : (w.machine.counted (.makeDirectory path mode)).isDirectory path = true := h
  have hmake := exec_makeDirectory path hfaults hzero hfits
  rw [Machine.makeDirectory_of_isDirectory mode hcounted] at hmake
  have hagain : (w.afterCall (.makeDirectory path mode) (.error .alreadyExists)).machine.isDirectory
      path = true := h
  unfold createOne
  rw [exec_bind_of_ok hmake]
  simp only []
  rw [if_pos (by rfl), exec_bind_of_ok (exec_get _), if_pos hagain]
  rfl

/-- **Where all directories are, creating them comes to its end:** every call answers that its
directory is there, and nothing is changed. -/
theorem exec_createAll_of_isDirectory {paths : List Path} (hfaults : w.faults = [])
    (hfits : Numeral.fitsInt32 mode = true)
    (h : ∀ path ∈ paths, w.machine.isDirectory path = true) :
    ∃ w', exec (createAll mode paths) w = (.ok (.ok ⟨⟩), w') ∧
      w.Makes (paths.map fun path => (.makeDirectory path mode, .error .alreadyExists)) w' ∧
      w'.besides [.trace] = w.besides [.trace] := by
  induction paths generalizing w with
  | nil => exact ⟨w, rfl, World.makes_of_trace_eq rfl, rfl⟩
  | cons path paths ih =>
    obtain ⟨hpath, hpaths⟩ := List.forall_mem_cons.1 h
    have hfirst := exec_createOne_of_isDirectory hfaults hfits hpath
    have hcalled : (w.afterCall (.makeDirectory path mode)
        (.error .alreadyExists)).besides [.trace] = w.besides [.trace] := rfl
    obtain ⟨w', hrest, hlater, hkept⟩ := ih
      (w := w.afterCall (.makeDirectory path mode) (.error .alreadyExists)) hfaults hpaths
    exact ⟨w', (exec_bind_of_ok hfirst).trans hrest,
      (World.makes_afterCall rfl _ w).trans hlater, hkept.trans hcalled⟩

/-- **Where an entry of a directory is named, the directory is there,** and so are those on the way
to it. -/
theorem isDirectory_of_mem_beginnings {m : Machine} {target : Target} {name start : Text}
    (hne : base ≠ []) (hzero : 0 ∉ base.encode) (hname : name.head? ≠ some slash)
    (hentry : Machine.IsEntryName name.encode)
    (hresolve : m.resolve (base.joinPath name).encode = .ok target)
    (h : start ∈ beginnings slash base) : m.isDirectory (.text start) = true := by
  obtain ⟨hhead, rest, hbase, hrest⟩ := exists_append_of_mem_beginnings h
  obtain ⟨more, hmore⟩ := Text.exists_joinPath_eq_append base hname
  have hencode : base.encode = start.encode ++ Text.encode rest := by
    rw [hbase]
    exact Text.encode_append _ _
  have hjoined : (base.joinPath name).encode =
      start.encode ++ (Text.encode rest ++ more.encode) := by
    rw [hmore, Text.encode_append, hencode, List.append_assoc]
  have hstart : start.encode ≠ [] := by
    rcases start with _ | ⟨a, symbols⟩
    · exact absurd (List.head?_eq_none_iff.1 hhead.symm) hne
    · exact List.append_ne_nil_of_left_ne_nil a.encode_ne_nil _
  -- Where the lookup begins depends on the first byte, which both paths share.
  have hlookup : m.start start.encode = m.start (base.joinPath name).encode := by
    obtain ⟨byte, bytes, hbytes⟩ := List.exists_cons_of_ne_nil hstart
    rw [hjoined, hbytes]
    rfl
  have hlength : start.encode.length < pathLimit := by
    have hshort := (Machine.resolve_eq_ok.1 hresolve).2.1
    rw [hjoined, List.length_append] at hshort
    exact Nat.lt_of_le_of_lt (Nat.le_add_right _ _) hshort
  have hnames : ∃ first others, Location.names (base.joinPath name).encode =
      Location.names start.encode ++ first :: others := by
    rw [Text.names_encode_joinPath hne hname hentry, hencode]
    rcases hrest with rfl | hslash
    · exact ⟨name.encode, [], by rw [Text.encode_nil, List.append_nil]⟩
    · obtain ⟨tail, rfl⟩ := List.head?_eq_some_iff.1 hslash
      rw [Text.encode_slash_cons, Location.names_append_cons, List.append_assoc]
      rcases Location.names (Text.encode tail) with _ | ⟨first, others⟩
      · exact ⟨name.encode, [], rfl⟩
      · exact ⟨first, others ++ [name.encode], rfl⟩
  obtain ⟨first, others, hnames⟩ := hnames
  obtain ⟨target', bits, hpart, hnode⟩ :=
    Machine.exists_directory_of_resolve hnames hlookup hstart hlength hresolve
  refine Machine.isDirectory_eq_true.2 ⟨fun hmem => hzero ?_, target', bits, hpart, hnode⟩
  rw [hencode]
  exact List.mem_append_left _ hmem

/-! ## Modes in and out of range -/

/-- The directories on the way to a path have no other bytes than the path. -/
theorem zero_not_mem_of_mem_chain (hzero : 0 ∉ path.toBytes) (h : start ∈ path.chain) :
    0 ∉ start.toBytes := by
  obtain ⟨-, rest, hpath, -⟩ := exists_append_of_mem_beginnings (Path.toBytes_mem_beginnings h)
  rw [hpath] at hzero
  exact fun hmem => hzero (List.mem_append_left _ hmem)

/-- With a mode that fits and a path without a zero byte, creating a directory comes to an
outcome. -/
theorem returns_createOne (hfits : Numeral.fitsInt32 mode = true) (hzero : 0 ∉ path.toBytes) :
    Returns (createOne path mode) := by
  refine Returns.bind (returns_makeDirectory hzero hfits) fun result => ?_
  rcases result with e | ⟨⟩
  · exact Returns.ite
      (Returns.bind Returns.get fun _ => Returns.ite (Returns.pure _) (Returns.pure _))
      (Returns.pure _)
  · exact Returns.pure _

/-- With a mode that fits and paths without zero bytes, creating directories comes to an outcome,
whatever the calls are answered. -/
theorem returns_createAll (hfits : Numeral.fitsInt32 mode = true)
    (hzero : ∀ path ∈ paths, 0 ∉ path.toBytes) : Returns (createAll mode paths) := by
  induction paths with
  | nil => exact Returns.pure _
  | cons path paths ih =>
    obtain ⟨hpath, hpaths⟩ := List.forall_mem_cons.1 hzero
    refine Returns.bind (returns_createOne hfits hpath) fun result => ?_
    rcases result with e | ⟨⟩
    · exact Returns.bind (returns_log _ _) fun _ => Returns.pure _
    · exact ih hpaths

/-- **Creating a directory comes to an outcome** if its mode has 32 bits. -/
theorem returns_create (hfits : Numeral.fitsInt32 mode = true) (hzero : 0 ∉ path.toBytes) :
    Returns (create path mode) :=
  returns_createAll hfits fun _ hstart => zero_not_mem_of_mem_chain hzero hstart

/-- A mode out of range is noticed before the call. -/
theorem exec_makeDirectory_of_not_fits (hfits : Numeral.fitsInt32 mode = false)
    (hzero : 0 ∉ path.toBytes) (w : World) :
    exec (makeDirectory path mode) w = (.error (.failed .outOfRange), w) := by
  have hrefused : (!Numeral.fitsInt32 mode) = true := by rw [hfits]; rfl
  unfold makeDirectory
  rw [exec_bind_of_ok (exec_requireNoZero hzero w), if_pos hrefused]
  rfl

/-- **A mode out of range makes the creation of a directory fail,** with nothing done. -/
theorem exec_create_of_not_fits (hfits : Numeral.fitsInt32 mode = false) (hzero : 0 ∉ path.toBytes)
    (w : World) : exec (create path mode) w = (.error (.failed .outOfRange), w) := by
  -- There is a first directory to create, since the path itself is among them.
  obtain ⟨first, rest, hchain⟩ : ∃ first rest, path.chain = first :: rest := by
    refine List.exists_cons_of_ne_nil ?_
    cases path with
    | text t =>
      obtain ⟨shorter, hshorter⟩ := exists_beginnings_eq_append slash t
      simp [Path.chain, hshorter]
    | bytes b =>
      obtain ⟨shorter, hshorter⟩ := exists_beginnings_eq_append slashByte b
      simp [Path.chain, hshorter]
  have hfirst : 0 ∉ first.toBytes :=
    zero_not_mem_of_mem_chain hzero (hchain ▸ List.mem_cons_self)
  unfold create
  rw [hchain]
  exact exec_bind_of_error (exec_bind_of_error (exec_makeDirectory_of_not_fits hfits hfirst w))

/-! ## Paths from the root -/

/-- Asking for the working directory changes nothing, and ends the launch only for the
environment. -/
theorem keeps_working : Keeps (World.besides []) [.environment] working := by
  refine Keeps.bind keeps_workingDirectory? fun result => ?_
  rcases result with e | directory
  · exact Keeps.fail (Stop.exitsWith_because (by simp) _ _)
  · exact Keeps.pure _

/-- Making a path absolute changes nothing, and ends the launch only for the environment. -/
theorem keeps_absoluteText (path : Text) :
    Keeps (World.besides []) [.environment] (absoluteText path) :=
  Keeps.ite (Keeps.pure _) (Keeps.bind keeps_working fun _ => Keeps.pure _)

/-- The working directory that a process is told is the one of its machine. -/
theorem workingDirectory_of_exec_working {directory : Text}
    (h : exec working w = (.ok directory, w')) : w.machine.workingDirectory = some directory := by
  obtain ⟨result, w₁, hcall, hrest⟩ := exec_bind_eq_ok.1 h
  rcases result with e | directory'
  · exact absurd (congrArg Prod.fst hrest) (by simp)
  · cases hrest
    obtain ⟨_, heffect⟩ := exists_effect_of_exec_call hcall
    rcases hworking : w.machine.workingDirectory with _ | directory'
    · simp [Machine.counted, hworking] at heffect
    · simp [Machine.counted, hworking] at heffect
      rw [heffect.1]

/-- **A path that has been made absolute is so,** or is empty, where the path of the working
directory is absolute. -/
theorem isSettled_of_exec_absoluteText {path : Text}
    (hrooted : ∀ directory ∈ w.machine.workingDirectory, directory.head? = some slash)
    (h : exec (absoluteText path) w = (.ok base, w')) : isSettled slash base = true := by
  unfold absoluteText at h
  by_cases hsettled : isSettled slash path = true
  · simp [hsettled] at h
    exact h.1 ▸ hsettled
  · simp only [hsettled] at h
    obtain ⟨directory, w₁, hworking, hrest⟩ := exec_bind_eq_ok.1 h
    cases hrest
    have hhead := hrooted directory (workingDirectory_of_exec_working hworking)
    obtain ⟨rest, rfl⟩ := List.head?_eq_some_iff.1 hhead
    simp [isSettled, behind]

end Directory

end Launcher
