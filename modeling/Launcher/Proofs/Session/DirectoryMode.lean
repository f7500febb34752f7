import Launcher.Proofs.Launch.Frame
import Launcher.Proofs.Session.History

/-!
# Modes for new directories

The mode for new directories is read from the environment as an integer of any size, while the
system takes one of 32 bits. A mode in that range lets the creation of the output base come to an
outcome, and an error of the system ends the launch for its environment. Any other mode that the
settings accept makes the creation of a directory fail by an overflow before anything has been
called, and that is an internal error of the launcher.

## Main definitions

* `Launcher.Session.ModeServes` and `Launcher.Session.ModeOverflows` — what a mode does to a launch.

## Main results

* `Launcher.Session.directory_mode_decides` — what an accepted mode makes of a launch.
* `Launcher.Session.not_every_mode_has_outcome` — a mode that is accepted and has no outcome.
-/

namespace Launcher

open Launcher.Action Launch

namespace Session

variable {s : Session} {settings : Settings} {base : Text}

/-- A mode serves to create the output base: that comes to an outcome in every world, and if it is
an error of the system then a launch ends for its environment. -/
structure ModeServes (s : Session) (mode : Int) (base : Text) : Prop where
  outcome : ∀ w, ∃ outcome w', exec (Directory.create (.text base) mode) w = (.ok outcome, w')
  ends : ∀ tokens plan w e w', Query.ofTokens tokens = none →
    exec (settle tokens) s.world = (.ok plan, w) → plan.base = base →
    exec (Directory.create (.text base) mode) w = (.ok (.error e), w') →
    (∀ n ∈ e.errno, Numeral.fitsInt32 n = true) →
    (s.perform (Launch.main tokens)).1.result = .ok ExitCode.environment.number

/-- A mode overflows when the output base is to be created: that fails in every world, with nothing
done, and a launch ends as an internal error, with no call made and the tree as it was. -/
structure ModeOverflows (s : Session) (mode : Int) (base : Text) : Prop where
  fails : ∀ w, exec (Directory.create (.text base) mode) w = (.error (.failed .outOfRange), w)
  ends : ∀ tokens plan w, Query.ofTokens tokens = none →
    exec (settle tokens) s.world = (.ok plan, w) → plan.base = base →
    (s.perform (Launch.main tokens)).1.result = .ok ExitCode.internal.number ∧
      (s.perform (Launch.main tokens)).1.process.trace = [] ∧
      (s.perform (Launch.main tokens)).2.machine.tree = s.machine.tree

/-- **What an accepted mode makes of a launch.** With a mode of 32 bits, creating an output base
without zero bytes comes to an outcome in every world. With any other mode it fails without a call,
and that is an internal error of the launcher. -/
theorem directory_mode_decides (hread : Settings.read s.environment = .ok settings)
    (hzero : Symbol.char '\x00' ∉ base) :
    (Numeral.fitsInt32 settings.directoryMode = true →
      ModeServes s settings.directoryMode base) ∧
    (Numeral.fitsInt32 settings.directoryMode = false →
      ModeOverflows s settings.directoryMode base) := by
  have hbytes : 0 ∉ (Path.text base).toBytes :=
    fun hmem => hzero ((Text.zero_mem_encode_iff _).1 hmem)
  have hmode : ∀ {tokens plan w}, exec (settle tokens) s.world = (.ok plan, w) →
      plan.directoryMode = settings.directoryMode := by
    intro tokens plan w hsettle
    have hplan := readMode_of_exec_settle hsettle
    rw [show s.world.process.environment = s.environment from rfl,
      (Settings.read_eq_ok.1 hread).1] at hplan
    exact (Except.ok.inj hplan).symm
  refine ⟨fun hfits => ⟨Directory.returns_create hfits hbytes, ?_⟩,
    fun hfits => ⟨Directory.exec_create_of_not_fits hfits hbytes, ?_⟩⟩
  · intro tokens plan w e w' hquery hsettle hbase hcreate hnumber
    obtain ⟨f, hfatal, hcode⟩ := Failure.exists_fatal_of_because .environment
      (lit "could not create output base directory '" ++ plan.base ++ lit "'") hnumber
    have hstop : exec (createBase plan) w = (.error (.failed (.fatal f)), w') := by
      rw [← hfatal, createBase, hbase, hmode hsettle, exec_bind_of_ok hcreate]
      rfl
    obtain ⟨w'', hend, -⟩ := exec_exitCode_of_fatal (exec_run_of_exec_createBase hsettle hstop)
    rw [perform_eq, main_of_no_query hquery, hend, hcode]
  · intro tokens plan w hquery hsettle hbase
    have hstop : exec (createBase plan) w = (.error (.failed .outOfRange), w) := by
      rw [createBase, hbase, hmode hsettle]
      exact exec_bind_of_error (Directory.exec_create_of_not_fits hfits hbytes w)
    obtain ⟨w'', hend, hview⟩ := exec_exitCode_of_failed (exec_run_of_exec_createBase hsettle hstop)
      fun f hf => by cases hf
    have hkept : w''.besides [.threshold, .log, .errors] =
        s.world.besides [.threshold, .log, .errors] :=
      (World.besides_eq_of_among hview).trans
        (World.besides_eq_of_among (view_eq_of_exec_settle hsettle))
    rw [perform_eq, main_of_no_query hquery, hend]
    exact ⟨rfl, World.trace_eq_of_besides_eq hkept,
      World.tree_eq_of_bare_eq (World.bare_eq_of_besides_eq hkept)⟩

/-! ### The least mode out of range -/

/-- A session with a mode for new directories that has 33 bits. -/
def wide : Session :=
  { onlyTrue with
    environment := [("USER", lit "user"), ("LAUNCHKIT_DIR_MODE", lit "20000000000")] }

/-- The settings with a mode that has 33 bits. -/
def wideSettings : Settings where
  outputBase := none
  directoryMode := 0o20000000000
  logLevel := Level.warning
  delegate := none
  delegated := false

/-- The settings of this session are accepted, its directory mode among them. -/
theorem read_wide : Settings.read wide.environment = .ok wideSettings :=
  eq_ok_of_toOption (by decide +kernel)

/-- The mode of these settings has more than 32 bits. -/
theorem not_fits_wide : Numeral.fitsInt32 wideSettings.directoryMode = false := by
  simp [Numeral.fitsInt32, wideSettings]

/-- A launch with such a mode comes as far as to create its output base. -/
theorem exists_exec_settle_wide : ∃ plan w,
    exec (settle [lit "--output_base=/base"]) wide.world = (.ok plan, w) ∧
      plan.base = lit "/base" := by
  have hsettled : (exec (settle [lit "--output_base=/base"]) wide.world).1.toOption.map (·.base) =
      some (lit "/base") := by decide +kernel
  rcases hexec : exec (settle [lit "--output_base=/base"]) wide.world with ⟨result, w⟩
  rw [hexec] at hsettled
  obtain ⟨plan, hplan, hbase⟩ := Option.map_eq_some_iff.1 hsettled
  exact ⟨plan, w, congrArg (·, w) (eq_ok_of_toOption hplan), hbase⟩

/-- The launch ends as an internal error, before any call. -/
theorem directory_mode_decides_wide :
    Settings.read wide.environment = .ok wideSettings ∧
      Numeral.fitsInt32 wideSettings.directoryMode = false ∧
      (wide.perform (Launch.main [lit "--output_base=/base"])).1.result =
        .ok ExitCode.internal.number ∧
      (wide.perform (Launch.main [lit "--output_base=/base"])).1.process.trace = [] ∧
      (wide.perform (Launch.main [lit "--output_base=/base"])).2.machine.tree =
        wide.machine.tree := by
  obtain ⟨plan, w, hsettle, hbase⟩ := exists_exec_settle_wide
  have hquery : Query.ofTokens [lit "--output_base=/base"] = none := by decide
  have hzero : Symbol.char '\x00' ∉ lit "/base" := by decide
  obtain ⟨-, hnot⟩ := directory_mode_decides read_wide hzero
  exact ⟨read_wide, not_fits_wide, (hnot not_fits_wide).ends _ plan w hquery hsettle hbase⟩

/-- Not every mode that the settings accept lets the creation of an output base come to an
outcome. -/
theorem not_every_mode_has_outcome :
    ¬∀ (s : Session) (settings : Settings) (base : Text),
      Settings.read s.environment = .ok settings → Symbol.char '\x00' ∉ base →
      ∃ outcome w', exec (Directory.create (.text base) settings.directoryMode) s.world =
        (.ok outcome, w') := by
  intro hclaim
  have hzero : Symbol.char '\x00' ∉ lit "/base" := by decide
  obtain ⟨outcome, w', hcreate⟩ := hclaim wide wideSettings (lit "/base") read_wide hzero
  have hbytes : 0 ∉ (Path.text (lit "/base")).toBytes :=
    fun hmem => hzero ((Text.zero_mem_encode_iff _).1 hmem)
  rw [Directory.exec_create_of_not_fits not_fits_wide hbytes] at hcreate
  cases hcreate

end Session

end Launcher
