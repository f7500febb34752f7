import Launcher.Proofs.Directory.Parents
import Launcher.Proofs.Launch.Steady

/-!
# Creating a directory again

A directory that has been created is there, with all that are on the way to it. That goes also for
those which the way leaves again by `..`, and for those that were there before, or of which a fault
said so: what is created later takes no directory away. So creating it again, without faults, finds
every directory there, and changes nothing.

## Main results

* `Launcher.Directory.isDirectory_of_mem_of_exec_createAll` — all directories that have been created
  are there.
* `Launcher.Directory.fits_of_exec_create` — they have been created with a mode of 32 bits.
* `Launcher.Directory.create_again` — creating a directory again.
-/

namespace Launcher.Directory

open Launcher.Action

variable {path : Path} {paths : List Path} {mode : Int} {w w' : World}

/-- **All directories that have been created are there,** not only the last one. -/
theorem isDirectory_of_mem_of_exec_createAll
    (h : exec (createAll mode paths) w = (.ok (.ok ⟨⟩), w')) :
    ∀ start ∈ paths, w'.machine.isDirectory start = true := by
  induction paths generalizing w with
  | nil => simp
  | cons first paths ih =>
    obtain ⟨result, w₁, hcreate, hrest⟩ := exec_bind_eq_ok.1 h
    rcases result with e | ⟨⟩
    · obtain ⟨_, _, -, hreturn⟩ := exec_bind_eq_ok.1 hrest
      cases hreturn
    · -- The first one is there when it has been created, and the others are only added.
      have hfirst : w₁.bare.isDirectory first = true := isDirectory_of_exec_createOne hcreate
      have hextends : w₁.bare.Extends (exec (createAll mode paths) w₁).2.bare :=
        (furnishes_exec_createAll mode paths w₁).toExtends
      have hkept : (exec (createAll mode paths) w₁).2.bare.isDirectory first = true :=
        Machine.isDirectory_of_extends hfirst hextends
      rw [hrest] at hkept
      exact List.forall_mem_cons.2 ⟨hkept, ih hrest⟩

/-- A directory that has been created has been created with a mode of 32 bits. -/
theorem fits_of_exec_create (h : exec (create path mode) w = (.ok (.ok ⟨⟩), w')) :
    Numeral.fitsInt32 mode = true := by
  have hself : path ∈ path.chain := by
    rw [Path.chain_eq_prefixes]
    cases path <;> simp [Path.prefixes]
  have hzero : 0 ∉ path.toBytes :=
    (Machine.isDirectory_eq_true.1 (isDirectory_of_mem_of_exec_createAll h path hself)).1
  by_contra hnot
  rw [exec_create_of_not_fits (Bool.eq_false_iff.2 hnot) hzero] at h
  cases h

/-- **Creating a directory again changes nothing.** If it has been created, whatever faults there
were, then in any world that differs in the planned faults at most, and in which none of them
strikes, it is created again, by attempts for the same paths, each of which answers that the
directory is there; and the tree stays as it is.

**Proof sketch.** All directories on the way are there afterwards
(`isDirectory_of_mem_of_exec_createAll`), so without faults each attempt finds its directory
(`exec_createAll_of_isDirectory`). A run that no fault strikes is the run without faults
(`steady_create`). -/
theorem create_again (h : exec (create path mode) w = (.ok (.ok ⟨⟩), w')) {v : World}
    (hsame : v.calm = w'.calm) (hquiet : v.StrikesOnly [] (exec (create path mode) v).2) :
    ∃ attempts v', w.Makes (callsOf mode attempts) w' ∧ attempts.map Prod.fst = path.prefixes ∧
      exec (create path mode) v = (.ok (.ok ⟨⟩), v') ∧
      v.Makes (callsOf mode (attempts.map fun attempt => (attempt.1, .error .alreadyExists))) v' ∧
      v'.machine.tree = w'.machine.tree := by
  obtain ⟨attempts, hmakes, hends⟩ := ends_createAll h
  have hpaths : path.chain = attempts.map Prod.fst := by
    cases hends with
    | created passed all => exact all
  have hdirectories : ∀ start ∈ path.chain, w'.machine.isDirectory start = true :=
    isDirectory_of_mem_of_exec_createAll h
  obtain ⟨u, hagain, hfound, hkept⟩ :=
    exec_createAll_of_isDirectory (w := w'.calm) rfl (fits_of_exec_create h) hdirectories
  -- The run that no fault strikes is the run without faults, of which this has been said.
  have hcalm := (steady_create path mode).exec_calm (by simp) hquiet
  have hcreate : exec (create path mode) v.calm = (.ok (.ok ⟨⟩), u) := hsame ▸ hagain
  rcases hexec : exec (create path mode) v with ⟨result, v'⟩
  rw [hcreate, hexec] at hcalm
  obtain ⟨rfl, rfl⟩ := Prod.mk.inj hcalm
  have hcalls : callsOf mode (attempts.map fun attempt => (attempt.1, .error .alreadyExists)) =
      path.chain.map fun start => (.makeDirectory start mode, .error .alreadyExists) := by
    rw [hpaths, callsOf, List.map_map, List.map_map]
    rfl
  have htrace : v.process.trace = w'.calm.process.trace := congrArg (·.process.trace) hsame
  have htree : v'.calm.machine.tree = w'.calm.machine.tree :=
    World.tree_eq_of_bare_eq (World.bare_eq_of_besides_eq hkept)
  refine ⟨attempts, v', hmakes, by rw [← hpaths, Path.chain_eq_prefixes], rfl, ?_, htree⟩
  rw [hcalls, World.Makes, htrace]
  exact hfound

/-- A process in a directory, on a machine on which the second call for a directory is answered as
if the directory were there. -/
def misled : World :=
  { atHome with
    machine := { atHome.machine with
      faults := [⟨.makeDirectory, some 2, none, .fail .alreadyExists⟩] } }

/-- A directory that lies behind a new one and back is created in three attempts, the second of them
struck, and then found three times. -/
theorem create_again_misled :
    ∃ w', exec (create (.text (lit "new/../other")) 0o755) misled = (.ok (.ok ⟨⟩), w') ∧
      w'.calm.StrikesOnly [] (exec (create (.text (lit "new/../other")) 0o755) w'.calm).2 ∧
      ∃ v', exec (create (.text (lit "new/../other")) 0o755) w'.calm = (.ok (.ok ⟨⟩), v') ∧
        w'.calm.Makes (callsOf 0o755
          [(.text (lit "new"), .error .alreadyExists),
            (.text (lit "new/.."), .error .alreadyExists),
            (.text (lit "new/../other"), .error .alreadyExists)]) v' ∧
        v'.machine.tree = w'.machine.tree := by
  have hcreated : (exec (create (.text (lit "new/../other")) 0o755) misled).1 = .ok (.ok ⟨⟩) := by
    decide +kernel
  rcases hexec : exec (create (.text (lit "new/../other")) 0o755) misled with ⟨result, w'⟩
  obtain rfl : result = .ok (.ok ⟨⟩) := by rw [hexec] at hcreated; exact hcreated
  have hquiet : w'.calm.StrikesOnly []
      (exec (create (.text (lit "new/../other")) 0o755) w'.calm).2 :=
    World.strikesOnly_of_plan (by intro fault hfault; cases hfault) _
  obtain ⟨attempts, v', -, hpaths, hagain, hfound, htree⟩ :=
    create_again hexec (v := w'.calm) rfl hquiet
  refine ⟨w', rfl, hquiet, v', hagain, ?_, htree⟩
  have hattempts : (attempts.map fun attempt => (attempt.1, Answer.error .alreadyExists)) =
      (attempts.map Prod.fst).map fun start => (start, .error .alreadyExists) := by
    rw [List.map_map]
    rfl
  rw [hattempts, hpaths] at hfound
  exact hfound

end Launcher.Directory
