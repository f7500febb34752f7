import Launcher.Proofs.Except
import Launcher.Settings

/-!
# Environments and settings

What an environment gives for a variable after another one has been set, and what the settings that
are read from it depend on.

## Main definitions

* `Launcher.Environment.AgreeBeside` — environments that differ at most in some variables.

## Main results

* `Launcher.Environment.lookup_set_self` and `Launcher.Environment.lookup_set_of_ne` — a variable
  that is set.
* `Launcher.Settings.read_eq_ok` — the settings of an environment, one by one.
* `Launcher.Settings.read_of_agreeBeside` — settings do not depend on other variables than theirs.
-/

namespace Launcher

/-! ## Variables -/

namespace Environment

variable {env env' : Environment} {name other : String} {hidden : List String}

/-- A variable that has been set has its new value. -/
theorem lookup_set_self (env : Environment) (name : String) (value : Text) :
    (env.set name value).lookup name = some value := by
  simp [set]

/-- Setting a variable leaves the other ones as they are. -/
theorem lookup_set_of_ne (env : Environment) (value : Text) (h : other ≠ name) :
    (env.set name value).lookup other = env.lookup other := by
  have hother : (other == name) = false := by simpa using h
  simp [set, List.lookup_cons, hother, lookup_filter_ne h]

/-- A variable that has been unset has no value. -/
theorem lookup_unset_self (env : Environment) (name : String) :
    (env.unset name).lookup name = none := lookup_filter_self env name

/-- Unsetting a variable leaves the other ones as they are. -/
theorem lookup_unset_of_ne (env : Environment) (h : other ≠ name) :
    (env.unset name).lookup other = env.lookup other := lookup_filter_ne h

/-- The environments give the same values to all variables but these. -/
def AgreeBeside (hidden : List String) (env env' : Environment) : Prop :=
  ∀ name, name ∉ hidden → env'.lookup name = env.lookup name

/-- Setting a hidden variable cannot be seen in the others. -/
theorem agreeBeside_set (hname : name ∈ hidden) (env : Environment) (value : Text) :
    AgreeBeside hidden env (env.set name value) := by
  intro other hother
  have hne : other ≠ name := fun h => hother (h ▸ hname)
  exact lookup_set_of_ne env value hne

/-- Unsetting a hidden variable cannot be seen in the others. -/
theorem agreeBeside_unset (hname : name ∈ hidden) (env : Environment) :
    AgreeBeside hidden env (env.unset name) := by
  intro other hother
  have hne : other ≠ name := fun h => hother (h ▸ hname)
  exact lookup_unset_of_ne env hne

/-- Agreement beside hidden variables holds in both directions. -/
theorem AgreeBeside.symm (h : AgreeBeside hidden env env') : AgreeBeside hidden env' env :=
  fun other hother => (h other hother).symm

/-- Agreement beside hidden variables is handed on. -/
theorem AgreeBeside.trans {env'' : Environment} (h : AgreeBeside hidden env env')
    (h' : AgreeBeside hidden env' env'') : AgreeBeside hidden env env'' :=
  fun other hother => (h' other hother).trans (h other hother)

/-- Environments that agree in some variables still do when one is set. -/
theorem AgreeBeside.set (h : AgreeBeside hidden env env') (name : String) (value : Text) :
    AgreeBeside hidden (env.set name value) (env'.set name value) := by
  intro other hother
  by_cases hname : other = name
  · subst hname
    rw [lookup_set_self, lookup_set_self]
  · rw [lookup_set_of_ne env value hname, lookup_set_of_ne env' value hname, h other hother]

end Environment

/-! ## Settings -/

namespace Settings

variable {env env' : Environment} {settings : Settings}

/-- The variable that names the delegate. -/
def delegateVariable : String := "LAUNCHKIT_DELEGATE"

/-- **The settings of an environment,** one by one. -/
theorem read_eq_ok :
    read env = .ok settings ↔
      readMode (given? env "LAUNCHKIT_DIR_MODE") = .ok settings.directoryMode ∧
      readLevel (given? env "LAUNCHKIT_LOG_LEVEL") = .ok settings.logLevel ∧
      settings.outputBase = given? env "LAUNCHKIT_OUTPUT_BASE" ∧
      settings.delegate = given? env delegateVariable ∧
      settings.delegated = (given? env delegatedVariable).isSome := by
  unfold read
  rw [bind_eq_ok]
  constructor
  · rintro ⟨mode, hmode, h⟩
    obtain ⟨level, hlevel, h⟩ := bind_eq_ok.1 h
    cases h
    exact ⟨hmode, hlevel, rfl, rfl, rfl⟩
  · rintro ⟨hmode, hlevel, hbase, hdelegate, hdelegated⟩
    refine ⟨_, hmode, bind_eq_ok.2 ⟨_, hlevel, ?_⟩⟩
    rw [pure_eq_ok, ← hdelegated]
    show Except.ok (Settings.mk _ _ _ (given? env delegateVariable) _) = _
    rw [← hbase, ← hdelegate]

/-- What is given is not empty. -/
theorem given?_ne_nil (env : Environment) (name : String) : given? env name ≠ some [] := by
  unfold given?
  intro h
  have hkept := (Option.filter_eq_some_iff.1 h).2
  simp at hkept

/-- What is given for a variable depends on its value only. -/
theorem given?_eq {name : String} (h : env'.lookup name = env.lookup name) :
    given? env' name = given? env name := by rw [given?, h, given?]

/-- Environments that differ at most in the variables about the delegate have settings that do. -/
theorem read_of_agreeBeside
    (hagree : Environment.AgreeBeside [delegateVariable, delegatedVariable] env env')
    (h : read env = .ok settings) :
    read env' = .ok { settings with
      delegate := given? env' delegateVariable
      delegated := (given? env' delegatedVariable).isSome } := by
  obtain ⟨hmode, hlevel, hbase, -, -⟩ := read_eq_ok.1 h
  refine read_eq_ok.2 ⟨?_, ?_, ?_, rfl, rfl⟩
  · rw [given?_eq (hagree "LAUNCHKIT_DIR_MODE" (by decide)), hmode]
  · rw [given?_eq (hagree "LAUNCHKIT_LOG_LEVEL" (by decide)), hlevel]
  · rw [given?_eq (hagree "LAUNCHKIT_OUTPUT_BASE" (by decide)), hbase]

end Settings

end Launcher
