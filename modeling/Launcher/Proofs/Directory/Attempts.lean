import Launcher.Proofs.Directory
import Launcher.Proofs.Machine.Growth
import Launcher.Proofs.Run.Faults
import Launcher.Proofs.Run.Trace

/-!
# The attempts to create a directory

A directory is created by one attempt for each beginning of its path that ends before a separator,
from the shortest on, and one for the path itself. An attempt is passed if it has created a
directory or has found one there. The first that is not passed is the last one, and gives its error;
nothing that has been created before is taken back. This holds whatever faults are planned, and also
where the attempts break off because a path or a mode cannot be given to the system at all.

## Main definitions

* `Launcher.Path.prefixes` — the paths for which there are attempts.
* `Launcher.Passed` — directories are created, or are there, one after the other.
* `Launcher.Directory.Ends` — how a sequence of attempts comes to its end.
* `Launcher.Directory.Adds` — what a sequence of attempts adds to a tree.

## Main results

* `Launcher.Path.chain_eq_prefixes` — the walk over a path comes by these paths.
* `Launcher.Directory.exec_createOne_cases` — what can come of one attempt.
* `Launcher.Directory.ends_createAll` — how the attempts for a sequence of paths end.
* `Launcher.Passed.adds` — what attempts that are passed add to a tree.
* `Launcher.Directory.furnishes_exec_createAll` — what any attempts do to a machine.
* `Launcher.Directory.create_ends` — the attempts to create a directory, under any plan of faults.
-/

namespace Launcher

open Launcher.Action

variable {m m' m'' : Machine} {w w' : World} {path : Path} {mode : Int}

/-! ## The paths of the attempts -/

/-- The beginnings of the path that end just before a separator at an index from one on, shortest
first, and then the path. -/
def Path.prefixes : Path → List Path
  | .text t => (cuts slash t).map .text ++ [.text t]
  | .bytes b => (cuts slashByte b).map .bytes ++ [.bytes b]

/-- **The walk over a path comes by its prefixes,** in the order of their length. -/
theorem Path.chain_eq_prefixes (path : Path) : path.chain = path.prefixes := by
  cases path with
  | text t => rw [chain, prefixes, beginnings_eq_cuts, List.map_append, List.map_singleton]
  | bytes b => rw [chain, prefixes, beginnings_eq_cuts, List.map_append, List.map_singleton]

/-! ## Attempts that are passed -/

/-- A call creates a directory, or finds it there. -/
inductive Passes : Machine → Call × Answer → Machine → Prop
  | created {m m' : Machine} {path : Path} {mode : Int}
      (h : m.makeDirectory path.toBytes mode = .ok m') : Passes m (.makeDirectory path mode, .ok) m'
  | existing {m : Machine} {path : Path} {mode : Int} (h : m.isDirectory path = true) :
      Passes m (.makeDirectory path mode, .error .alreadyExists) m

/-- Calls that create directories or find them there, one after the other. -/
inductive Passed : Machine → List (Call × Answer) → Machine → Prop
  | done (m : Machine) : Passed m [] m
  | next {m m' m'' : Machine} {call : Call × Answer} {calls : List (Call × Answer)}
      (first : Passes m call m') (rest : Passed m' calls m'') : Passed m (call :: calls) m''

namespace Directory

/-- The error that is given for an attempt: what is there in place of a directory is none. -/
def reported (e : Errno) : Errno := if e = .alreadyExists then .notDirectory else e

/-! ## One attempt -/

/-- An attempt that has created a directory is passed. -/
theorem exec_createOne_of_created (h : exec (makeDirectory path mode) w = (.ok (.ok ⟨⟩), w')) :
    exec (createOne path mode) w = (.ok (.ok ⟨⟩), w') := by
  unfold createOne
  rw [exec_bind_of_ok h]
  rfl

/-- An attempt that has found a directory there is passed. -/
theorem exec_createOne_of_existing
    (h : exec (makeDirectory path mode) w = (.ok (.error (.of .alreadyExists (some path))), w'))
    (hdirectory : w'.machine.isDirectory path = true) :
    exec (createOne path mode) w = (.ok (.ok ⟨⟩), w') := by
  unfold createOne
  rw [exec_bind_of_ok h]
  simp only [if_pos (OsError.errno_of_eq_some_iff.2 rfl)]
  rw [exec_bind_of_ok (exec_get _), if_pos hdirectory]
  rfl

/-- Any other attempt that fails is not. -/
theorem exec_createOne_of_error {e : Errno}
    (h : exec (makeDirectory path mode) w = (.ok (.error (.of e (some path))), w'))
    (hobstacle : e = .alreadyExists → w'.machine.isDirectory path = false) :
    exec (createOne path mode) w = (.ok (.error (.of (reported e) (some path))), w') := by
  unfold createOne
  rw [exec_bind_of_ok h]
  by_cases hexists : e = .alreadyExists
  · subst hexists
    simp only [if_pos (OsError.errno_of_eq_some_iff.2 rfl)]
    rw [exec_bind_of_ok (exec_get _), if_neg (by simp [hobstacle rfl]), reported, if_pos rfl]
    rfl
  · simp only [if_neg fun heq => hexists (OsError.errno_of_eq_some_iff.1 heq)]
    rw [reported, if_neg hexists]
    rfl

/-- **What can come of one attempt:** it is refused before the call, it creates the directory, it
finds it there, or it fails. -/
theorem exec_createOne_cases (path : Path) (mode : Int) (w : World) :
    (∃ failure, RefusesDirectory path mode failure ∧
        exec (createOne path mode) w = (.error (.failed failure), w)) ∨
      (∃ answer w', exec (createOne path mode) w = (.ok (.ok ⟨⟩), w') ∧
        Passes w.bare (.makeDirectory path mode, answer) w'.bare ∧
        w.Makes [(.makeDirectory path mode, answer)] w') ∨
      ∃ e w', exec (createOne path mode) w =
          (.ok (.error (.of (reported e) (some path))), w') ∧
        (e = .alreadyExists → w.bare.isDirectory path = false) ∧ w'.bare = w.bare ∧
        w.Makes [(.makeDirectory path mode, .error e)] w' := by
  rcases exec_makeDirectory_cases path mode w with
    ⟨failure, hrefuses, hexec⟩ | ⟨e, hexec⟩ | ⟨after, -, hmake, hexec⟩
  · exact Or.inl ⟨failure, hrefuses, exec_bind_of_error hexec⟩
  · refine Or.inr ?_
    by_cases hfound : e = .alreadyExists ∧ w.bare.isDirectory path = true
    · obtain ⟨rfl, hdirectory⟩ := hfound
      exact Or.inl ⟨_, _, exec_createOne_of_existing hexec hdirectory, .existing hdirectory, rfl⟩
    · have hobstacle : e = .alreadyExists → w.bare.isDirectory path = false := fun he =>
        Bool.eq_false_iff.2 fun hdirectory => hfound ⟨he, hdirectory⟩
      exact Or.inr ⟨e, _, exec_createOne_of_error hexec hobstacle, hobstacle, rfl, rfl⟩
  · refine Or.inr (Or.inl ⟨.ok, _, exec_createOne_of_created hexec, .created ?_, rfl⟩)
    show Machine.makeDirectory
      { w.machine.counted (.makeDirectory path mode) with made := [] } _ _ = _
    rw [Machine.makeDirectory_made, hmake]
    rfl

/-! ## Attempts one after the other -/

/-- Attempts as the calls that they make. -/
def callsOf (mode : Int) (attempts : List (Path × Answer)) : List (Call × Answer) :=
  attempts.map fun attempt => (.makeDirectory attempt.1 mode, attempt.2)

/-- **How the attempts for a sequence of paths end.** All are made and passed; or the last one that
is made is the first that is not passed, and its error is given; or all that are made are passed and
the next one cannot even be made. -/
inductive Ends (mode : Int) (paths : List Path) (w w' : World) :
    List (Path × Answer) → Except Stop (Except OsError Unit) → Prop
  | created {attempts : List (Path × Answer)}
      (passed : Passed w.bare (callsOf mode attempts) w'.bare)
      (all : paths = attempts.map Prod.fst) : Ends mode paths w w' attempts (.ok (.ok ⟨⟩))
  | blocked {attempts : List (Path × Answer)} {path : Path} {e : Errno} {later : List Path}
      (passed : Passed w.bare (callsOf mode attempts) w'.bare)
      (next : paths = attempts.map Prod.fst ++ path :: later)
      (obstacle : e = .alreadyExists → w'.machine.isDirectory path = false) :
      Ends mode paths w w' (attempts ++ [(path, .error e)])
        (.ok (.error (.of (reported e) (some path))))
  | refused {attempts : List (Path × Answer)} {path : Path} {later : List Path} {failure : Failure}
      (passed : Passed w.bare (callsOf mode attempts) w'.bare)
      (next : paths = attempts.map Prod.fst ++ path :: later)
      (reason : RefusesDirectory path mode failure) :
      Ends mode paths w w' attempts (.error (.failed failure))

/-- One more attempt that is passed, in front. -/
theorem Ends.cons {w₁ : World} {paths : List Path} {attempts : List (Path × Answer)}
    {result : Except Stop (Except OsError Unit)} {answer : Answer}
    (hpasses : Passes w.bare (.makeDirectory path mode, answer) w₁.bare)
    (h : Ends mode paths w₁ w' attempts result) :
    Ends mode (path :: paths) w w' ((path, answer) :: attempts) result := by
  cases h with
  | created passed all => exact .created (.next hpasses passed) (by rw [all]; rfl)
  | @blocked earlier stuck e later passed next obstacle =>
    show Ends mode (path :: paths) w w' (((path, answer) :: earlier) ++ [(stuck, .error e)]) _
    exact .blocked (.next hpasses passed) (by rw [next]; rfl) obstacle
  | refused passed next reason => exact .refused (.next hpasses passed) (by rw [next]; rfl) reason

/-- **The attempts for a sequence of paths are made in order,** up to the first that is not
passed. -/
theorem ends_createAll {paths : List Path} {result : Except Stop (Except OsError Unit)}
    (h : exec (createAll mode paths) w = (result, w')) :
    ∃ attempts, w.Makes (callsOf mode attempts) w' ∧ Ends mode paths w w' attempts result := by
  induction paths generalizing w with
  | nil =>
    cases h
    exact ⟨[], World.makes_of_trace_eq rfl, .created (.done _) rfl⟩
  | cons path paths ih =>
    rw [createAll] at h
    rcases exec_createOne_cases path mode w with
      ⟨failure, hreason, hexec⟩ | ⟨answer, w₁, hexec, hpasses, hmakes⟩ |
        ⟨e, w₁, hexec, hobstacle, hbare, hmakes⟩
    · rw [exec_bind_of_error hexec] at h
      cases h
      exact ⟨[], World.makes_of_trace_eq rfl, .refused (.done _) rfl hreason⟩
    · rw [exec_bind_of_ok hexec] at h
      obtain ⟨attempts, hmakes', hends⟩ := ih h
      exact ⟨(path, answer) :: attempts, hmakes.trans hmakes', hends.cons hpasses⟩
    · -- The error goes into the log before it is given.
      rw [exec_bind_of_ok hexec] at h
      obtain ⟨log, hlog⟩ := exists_exec_log Level.debug
        (lit "Failed to create " ++ path.quoted ++ lit ": " ++
          (OsError.of (reported e) (some path)).render) w₁
      rw [exec_bind_of_ok hlog] at h
      cases h
      refine ⟨[(path, .error e)], hmakes, ?_⟩
      show Ends mode (path :: paths) w (w₁.withLog log) ([] ++ [(path, .error e)]) _
      refine .blocked ?_ rfl ?_
      · show Passed w.bare [] w₁.bare
        rw [hbare]
        exact .done _
      · show e = .alreadyExists → w₁.bare.isDirectory path = false
        rw [hbare]
        exact hobstacle

/-! ## What attempts add to a tree -/

/-- The paths for which directories have been created. -/
def createdBy (attempts : List (Path × Answer)) : List Path :=
  attempts.filterMap fun attempt => if attempt.2 = .ok then some attempt.1 else none

/-- What some attempts have created is among the paths that they were made for. -/
theorem createdBy_subset (attempts : List (Path × Answer)) :
    createdBy attempts ⊆ attempts.map Prod.fst := by
  intro path hpath
  obtain ⟨attempt, hattempt, hcreated⟩ := List.mem_filterMap.1 hpath
  obtain rfl : attempt.1 = path := by
    split at hcreated
    · exact Option.some.inj hcreated
    · cases hcreated
  exact List.mem_map_of_mem hattempt

/-- **What attempts add to a tree:** a directory wherever one of them has created one, where nothing
was, and nothing else; nothing that was there is changed or lost. -/
structure Adds (mode : Int) (attempts : List (Path × Answer)) (before after : Machine) : Prop
    extends before.Furnishes mode (createdBy attempts) after where
  created : ∀ path ∈ createdBy attempts, ∃ location, after.Names path location ∧
    before.tree.get? location = none ∧
    after.tree.get? location = some (.directory (before.bitsOf mode))

/-- What is there before attempts is there after them. -/
theorem Adds.eq_some {attempts : List (Path × Answer)} {before after : Machine}
    {location : Location} {node : Node} (h : Adds mode attempts before after)
    (hnode : before.tree.get? location = some node) : after.tree.get? location = some node := by
  rcases h.node location with hsame | ⟨hbefore, -⟩
  · exact hsame.trans hnode
  · rw [hnode] at hbefore
    cases hbefore

/-- An attempt that fails has created nothing. -/
theorem createdBy_append_error (attempts : List (Path × Answer)) (path : Path) (e : Errno) :
    createdBy (attempts ++ [(path, .error e)]) = createdBy attempts := by
  simp [createdBy]

/-- An attempt that fails adds nothing. -/
theorem Adds.append_error {attempts : List (Path × Answer)} {before after : Machine}
    (h : Adds mode attempts before after) (path : Path) (e : Errno) :
    Adds mode (attempts ++ [(path, .error e)]) before after := by
  have hsame := createdBy_append_error attempts path e
  exact ⟨hsame ▸ h.toFurnishes, hsame ▸ h.created⟩

/-- What a call that creates a directory adds, and then other attempts. -/
theorem Adds.cons_ok {attempts : List (Path × Answer)} {before middle after : Machine}
    (hmake : before.makeDirectory path.toBytes mode = .ok middle)
    (h : Adds mode attempts middle after) : Adds mode ((path, .ok) :: attempts) before after := by
  have hfirst := Machine.furnishes_of_makeDirectory hmake
  have hpaths : createdBy ((path, .ok) :: attempts) = path :: createdBy attempts := rfl
  have hbits : middle.bitsOf mode = before.bitsOf mode := by
    rw [Machine.bitsOf, hfirst.umask, Machine.bitsOf]
  refine ⟨?_, ?_⟩
  · rw [hpaths]
    exact IsTrans.trans _ _ _ (hfirst.mono (by simp)) (h.toFurnishes.mono (by simp))
  · rw [hpaths]
    intro other hother
    rcases List.mem_cons.1 hother with rfl | hrest
    · -- The directory that has just been created stays.
      obtain ⟨target, hresolve, hnone, rfl⟩ := Machine.makeDirectory_eq_ok.1 hmake
      have hnames : before.Names other target.location := ⟨target, hresolve, rfl⟩
      exact ⟨target.location, (hnames.of_extends hfirst.toExtends).of_extends h.toExtends, hnone,
        h.eq_some (Tree.get?_insert_self _ _ _)⟩
    · obtain ⟨location, hnames, hnone, hnode⟩ := h.created other hrest
      refine ⟨location, hnames, ?_, hbits ▸ hnode⟩
      rcases hfirst.node location with hsame | ⟨hbefore, -⟩
      · exact hsame.symm.trans hnone
      · exact hbefore

end Directory

/-- **What attempts that are passed add to a tree.** -/
theorem Passed.adds {attempts : List (Path × Answer)}
    (h : Passed m (Directory.callsOf mode attempts) m') : Directory.Adds mode attempts m m' := by
  induction attempts generalizing m with
  | nil =>
    cases h
    exact ⟨refl _, by simp [Directory.createdBy]⟩
  | cons attempt attempts ih =>
    obtain ⟨path, answer⟩ := attempt
    cases h with
    | next first rest =>
      cases first with
      | created hmake => exact (ih rest).cons_ok hmake
      | existing hdirectory =>
        have hsame : Directory.createdBy ((path, .error .alreadyExists) :: attempts) =
            Directory.createdBy attempts := rfl
        exact ⟨hsame ▸ (ih rest).toFurnishes, hsame ▸ (ih rest).created⟩

namespace Directory

/-- The count of calls is no part of what attempts add. -/
theorem Adds.of_bare {attempts : List (Path × Answer)} (h : Adds mode attempts w.bare w'.bare) :
    Adds mode attempts w.machine w'.machine :=
  ⟨⟨⟨h.directories, h.workingDirectory, h.umask⟩, h.node⟩, h.created⟩

section

variable {paths : List Path} {attempts : List (Path × Answer)}
  {result : Except Stop (Except OsError Unit)}

/-- Whatever way they end, attempts add what they have created. -/
theorem Ends.adds (h : Ends mode paths w w' attempts result) :
    Adds mode attempts w.bare w'.bare := by
  cases h with
  | created passed all => exact passed.adds
  | blocked passed next obstacle => exact passed.adds.append_error _ _
  | refused passed next reason => exact passed.adds

/-- Whatever way they end, attempts have created none but directories of the sequence. -/
theorem Ends.createdBy_subset (h : Ends mode paths w w' attempts result) :
    createdBy attempts ⊆ paths := by
  cases h with
  | created passed all => exact all ▸ Directory.createdBy_subset _
  | @blocked earlier path e later passed next obstacle =>
    rw [createdBy_append_error, next]
    exact List.Subset.trans (Directory.createdBy_subset earlier) (List.subset_append_left _ _)
  | refused passed next reason =>
    rw [next]
    exact List.Subset.trans (Directory.createdBy_subset attempts) (List.subset_append_left _ _)

end

/-- **Creating directories one after the other furnishes the way to them,** however it ends. -/
theorem furnishes_exec_createAll (mode : Int) (paths : List Path) (w : World) :
    w.bare.Furnishes mode paths (exec (createAll mode paths) w).2.bare := by
  rcases hexec : exec (createAll mode paths) w with ⟨result, w'⟩
  obtain ⟨attempts, -, hends⟩ := ends_createAll hexec
  exact hends.adds.toFurnishes.mono hends.createdBy_subset

/-- An attempt that is passed creates its directory at most. -/
theorem furnishes_of_exec_createOne (h : exec (createOne path mode) w = (.ok (.ok ⟨⟩), w')) :
    w.machine.Furnishes mode [path] w'.machine := by
  rcases exec_createOne_cases path mode w with
    ⟨failure, -, hexec⟩ | ⟨answer, w₁, hexec, hpasses, -⟩ | ⟨e, w₁, hexec, -⟩
  · cases h.symm.trans hexec
  · cases h.symm.trans hexec
    have hpassed : Passed w.bare (callsOf mode [(path, answer)]) w'.bare := .next hpasses (.done _)
    exact hpassed.adds.of_bare.toFurnishes.mono (createdBy_subset _)
  · cases h.symm.trans hexec

/-- **The attempts to create a directory,** whatever faults are planned. There are attempts for the
prefixes of the path in the order of their length, up to the first that is not passed, which gives
its error, or up to one that cannot be made. They add directories where they have created them, with
the bits of the mode that are among the lowest ten and not in the mask, and leave all other nodes as
they are; also where an error ends them or they break off.

**Proof sketch.** Induction over the prefixes (`ends_createAll`): an attempt is refused, is passed
or is the last (`exec_createOne_cases`). Those that are passed are a sequence of effects on the
machine, each of which adds at most one directory (`Passed.adds`). -/
theorem create_ends (path : Path) (mode : Int) (w : World) :
    ∃ attempts, w.Makes (callsOf mode attempts) (exec (create path mode) w).2 ∧
      Ends mode path.prefixes w (exec (create path mode) w).2 attempts
        (exec (create path mode) w).1 ∧
      Adds mode attempts w.machine (exec (create path mode) w).2.machine ∧
      ∀ i, (w.machine.bitsOf mode).testBit i =
        (decide (i < 10) && mode.testBit i && !w.machine.umask.testBit i) := by
  rcases hexec : exec (create path mode) w with ⟨result, w'⟩
  rw [create, Path.chain_eq_prefixes] at hexec
  obtain ⟨attempts, hmakes, hends⟩ := ends_createAll hexec
  exact ⟨attempts, hmakes, hends, hends.adds.of_bare, Machine.testBit_bitsOf_eq w.machine mode⟩

end Directory

end Launcher
