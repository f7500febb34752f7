import Mathlib.Data.List.DropRight
import Launcher.Proofs.Directory.Parents
import Launcher.User

/-!
# The default output base

A user who has chosen no output base gets a directory of the launcher's cache, which lies in the
home directory of the user. Its name is the name of the user, taken as it is. A name that begins at
the root stands for itself, and so the output base of a user of such a name may lie anywhere, also
in the directory of another user.

## Main definitions

* `Launcher.User.IsHome` — the home directory of the user.
* `Launcher.User.cache` — where the launcher keeps what it caches.

## Main results

* `Launcher.User.exists_isHome` — a home directory is always found.
* `Launcher.Text.joinPath_eq_behind` and `Launcher.User.cache_eq_behind` — how its entries are
  spelled.
* `Launcher.User.private_unless_absolute` — the output base of every user, and which users share
  one.
* `Launcher.User.not_every_base_is_private` — not every user has one in the cache, nor one alone.
-/

namespace Launcher

open Launcher.Action

/-- An entry of a directory is the name behind the directory, unless the name begins at the root. -/
theorem Text.joinPath_eq_behind {directory name : Text} (hdirectory : directory ≠ [])
    (hname : name.head? ≠ some slash) : directory.joinPath name = behind slash directory name := by
  unfold joinPath behind
  rw [if_neg hname]
  by_cases hslash : directory.getLast? = some slash
  · simp [hslash]
  · simp [hslash, hdirectory]

/-- A name that begins at the root stands for itself. -/
theorem Text.joinPath_of_head? {name : Text} (hname : name.head? = some slash) (directory : Text) :
    directory.joinPath name = name := if_pos hname

namespace User

variable {directory user other : Text} {w : World}

/-! ## The home directory -/

/-- A directory without the separators at its end: what is in front of them, or the root if nothing
is. -/
inductive IsTrimmed (directory : Text) : Text → Prop where
  | front {front : Text} {n : Nat} (hne : front ≠ []) (hlast : front.getLast? ≠ some slash)
      (h : directory = front ++ List.replicate n slash) : IsTrimmed directory front
  | root {n : Nat} (h : directory = List.replicate n slash) : IsTrimmed directory [slash]

/-- **A directory is trimmed as it should be.** -/
theorem isTrimmed_trimmed (directory : Text) : IsTrimmed directory (trimmed directory) := by
  -- The separators at the end, and what is in front of them.
  have hend : directory.rtakeWhile (· == slash) =
      List.replicate (directory.rtakeWhile (· == slash)).length slash :=
    List.eq_replicate_of_mem fun s hs => by simpa using List.mem_rtakeWhile_imp hs
  have hsplit :
      directory.rdropWhile (· == slash) ++ directory.rtakeWhile (· == slash) = directory :=
    List.rdropWhile_append_rtakeWhile
  rw [hend] at hsplit
  have htrimmed : trimmed directory = if directory.rdropWhile (· == slash) = [] then [slash]
      else directory.rdropWhile (· == slash) := by
    simp [trimmed, List.rdropWhile]
  by_cases hnil : directory.rdropWhile (· == slash) = []
  · rw [htrimmed, if_pos hnil]
    rw [hnil, List.nil_append] at hsplit
    exact .root hsplit.symm
  · rw [htrimmed, if_neg hnil]
    refine .front hnil (fun hlast => ?_) hsplit.symm
    have hnot := List.rdropWhile_last_not (· == slash) directory hnil
    rw [List.getLast?_eq_some_getLast hnil] at hlast
    exact hnot (by simpa using hlast)

/-- **The home directory of the user:** what the variable says, or else the account, without
separators at its end. Without either it is called `~`. -/
inductive IsHome (w : World) : Text → Prop where
  | told {value directory : Text} (h : w.process.environment.lookup "HOME" = some value)
      (htrimmed : IsTrimmed value directory) : IsHome w directory
  | registered {account : Account} {directory : Text}
      (h : w.process.environment.lookup "HOME" = none)
      (haccount : w.machine.account? = some account)
      (htrimmed : IsTrimmed account.home directory) : IsHome w directory
  | unknown (h : w.process.environment.lookup "HOME" = none)
      (haccount : w.machine.account? = none) : IsHome w (lit "~")

/-- A directory is not trimmed to nothing. -/
theorem IsTrimmed.ne_nil {trimmed : Text} (h : IsTrimmed directory trimmed) : trimmed ≠ [] := by
  cases h with
  | front hne => exact hne
  | root => exact List.cons_ne_nil slash []

/-- A home directory is not empty. -/
theorem IsHome.ne_nil (h : IsHome w directory) : directory ≠ [] := by
  cases h with
  | told _ htrimmed => exact htrimmed.ne_nil
  | registered _ _ htrimmed => exact htrimmed.ne_nil
  | unknown => decide

/-- **A home directory is always found,** and nothing is changed by that. -/
theorem exists_isHome (w : World) :
    ∃ directory, IsHome w directory ∧ exec home w = (.ok directory, w) := by
  have hvalue : exec (valueOf "HOME") w = (.ok (w.process.environment.lookup "HOME"), w) := rfl
  unfold home
  rw [exec_bind_of_ok hvalue]
  rcases htold : w.process.environment.lookup "HOME" with _ | value
  · rcases haccount : w.machine.account? with _ | account
    · refine ⟨_, .unknown htold haccount, ?_⟩
      simp only [exec_bind_of_ok (exec_get w), haccount]
      rfl
    · refine ⟨_, .registered htold haccount (isTrimmed_trimmed account.home), ?_⟩
      simp only [exec_bind_of_ok (exec_get w), haccount]
      rfl
  · exact ⟨_, .told htold (isTrimmed_trimmed value), rfl⟩

/-! ## The cache -/

/-- The directory in which the launcher keeps what it caches: an entry of an entry of the home
directory. -/
def cache (directory : Text) : Text :=
  (directory.joinPath (lit ".cache")).joinPath (lit Product.title)

/-- **The cache is spelled out behind the home directory.** -/
theorem cache_eq_behind (h : directory ≠ []) :
    cache directory = behind slash directory (lit ".cache/launchkit") := by
  have hlast : (behind slash directory (lit ".cache")).getLast? = some (.char 'e') :=
    List.getLast?_append_of_ne_nil _ (by decide)
  have hne : behind slash directory (lit ".cache") ≠ [] := by
    intro hnil
    rw [hnil] at hlast
    cases hlast
  have hspelled : lit ".cache" ++ [slash] ++ lit "launchkit" = lit ".cache/launchkit" := by decide
  rw [cache, Text.joinPath_eq_behind h (by decide), Text.joinPath_eq_behind hne (by decide), behind,
    if_neg (by rw [hlast]; decide), ← hspelled]
  simp [behind, Product.title]

/-- A cache has a name that does not end in a separator. -/
theorem cache_ne_nil (h : directory ≠ []) :
    cache directory ≠ [] ∧ (cache directory).getLast? ≠ some slash := by
  have hlast : (cache directory).getLast? = some (.char 't') := by
    rw [cache_eq_behind h]
    exact List.getLast?_append_of_ne_nil _ (by decide)
  constructor
  · intro hnil
    rw [hnil] at hlast
    cases hlast
  · rw [hlast]
    decide

/-! ## Output bases -/

/-- **The output base of a user who has chosen none:** an entry of the cache of the home directory,
of the name of the user, unless the name begins at the root. -/
theorem exec_defaultOutputBase (hhome : exec home w = (.ok directory, w)) (user : Text) :
    exec (defaultOutputBase user) w = (.ok ((cache directory).joinPath user), w) := by
  rw [defaultOutputBase, exec_bind_of_ok hhome]
  rfl

/-- An entry of the cache is spelled as the cache, a separator and the name. -/
theorem joinPath_cache (h : directory ≠ []) (huser : user.head? ≠ some slash) :
    (cache directory).joinPath user = cache directory ++ slash :: user := by
  obtain ⟨hne, hlast⟩ := cache_ne_nil h
  rw [Text.joinPath_eq_behind hne huser, behind, if_neg hlast, List.append_assoc,
    List.singleton_append]

/-- **Two users share an output base** only if the name of one of them spells that of the other. -/
theorem joinPath_cache_inj (h : directory ≠ []) :
    (cache directory).joinPath user = (cache directory).joinPath other ↔
      user = other ∨
        user.head? = some slash ∧ other.head? ≠ some slash ∧
          user = cache directory ++ slash :: other ∨
        other.head? = some slash ∧ user.head? ≠ some slash ∧
          other = cache directory ++ slash :: user := by
  by_cases huser : user.head? = some slash
  · by_cases hother : other.head? = some slash
    · rw [Text.joinPath_of_head? huser, Text.joinPath_of_head? hother]
      simp [huser, hother]
    · rw [Text.joinPath_of_head? huser, joinPath_cache h hother]
      have hne : user ≠ other := fun heq => hother (heq ▸ huser)
      simp [huser, hother, hne]
  · by_cases hother : other.head? = some slash
    · rw [Text.joinPath_of_head? hother, joinPath_cache h huser]
      have hne : user ≠ other := fun heq => huser (heq ▸ hother)
      simp [huser, hother, hne, eq_comm]
    · rw [joinPath_cache h huser, joinPath_cache h hother]
      simp [huser, hother]

/-- **The output base of every user,** and which users share one. In a home directory there is one
cache for all of them, spelled out behind it. A user has an entry of the cache, whose name is the
name of the user, unless that name begins at the root: then it is the output base as it stands. So
two users share an output base only if one of the names begins at the root and spells the entry of
the other. -/
theorem private_unless_absolute (w : World) :
    ∃ directory, IsHome w directory ∧
      cache directory = behind slash directory (lit ".cache/launchkit") ∧
      (∀ user, user.head? ≠ some slash →
        exec (defaultOutputBase user) w = (.ok (cache directory ++ slash :: user), w)) ∧
      (∀ user, user.head? = some slash → exec (defaultOutputBase user) w = (.ok user, w)) ∧
      ∀ user other, exec (defaultOutputBase user) w = exec (defaultOutputBase other) w ↔
        user = other ∨
          user.head? = some slash ∧ other.head? ≠ some slash ∧
            user = cache directory ++ slash :: other ∨
          other.head? = some slash ∧ user.head? ≠ some slash ∧
            other = cache directory ++ slash :: user := by
  obtain ⟨directory, hhome, hexec⟩ := exists_isHome w
  have hne := hhome.ne_nil
  refine ⟨directory, hhome, cache_eq_behind hne, fun user huser => ?_, fun user huser => ?_,
    fun user other => ?_⟩
  · rw [exec_defaultOutputBase hexec, joinPath_cache hne huser]
  · rw [exec_defaultOutputBase hexec, Text.joinPath_of_head? huser]
  · rw [exec_defaultOutputBase hexec, exec_defaultOutputBase hexec, ← joinPath_cache_inj hne]
    simp

/-- A process with a home directory. -/
def atDesk : World :=
  { Directory.atHome with
    process := { Directory.atHome.process with environment := [("HOME", lit "/home/u/")] } }

/-- **Not every user has an output base in the cache, nor one alone:** a user may be called `/etc`,
or as the output base of another user is spelled. -/
theorem not_every_base_is_private :
    (¬∀ (w : World) (user : Text), user ≠ [] → ∃ directory, IsHome w directory ∧
      exec (defaultOutputBase user) w = (.ok (cache directory ++ slash :: user), w)) ∧
    ¬∀ (w : World) (user other : Text), user ≠ [] → other ≠ [] → user ≠ other →
      exec (defaultOutputBase user) w ≠ exec (defaultOutputBase other) w := by
  constructor
  · intro h
    obtain ⟨directory, -, hexec⟩ := h atDesk (lit "/etc") (by decide)
    have hetc : exec (defaultOutputBase (lit "/etc")) atDesk = (.ok (lit "/etc"), atDesk) := rfl
    rw [hetc] at hexec
    have hlength := congrArg List.length (Except.ok.inj (congrArg Prod.fst hexec))
    simp only [List.length_append, List.length_cons] at hlength
    omega
  · intro h
    exact h atDesk (lit "bob") (lit "/home/u/.cache/launchkit/bob") (by decide) (by decide)
      (by decide) rfl

end User

end Launcher
