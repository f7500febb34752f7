import Launcher.Proofs.Directory.Attempts
import Launcher.Proofs.Environment
import Launcher.Proofs.Launch.Execution
import Launcher.Proofs.Launch.LastCommand
import Launcher.Proofs.WholeFile.Replacing

/-!
# What a launch leaves behind

However a launch ends, it has changed the tree in no more than two ways: directories have been
created on the way to its output base, and behind them its command has been recorded. The second
happens to no launch but one that has found its program.

## Main definitions

* `Launcher.Action.Moves` — an action changes the machine in one way.
* `Launcher.Launch.MayLeave` — what a run can leave at a location.

## Main results

* `Launcher.Directory.moves_create` — creating a directory furnishes the way to it.
* `Launcher.WholeFile.moves_replace` — replacing a file touches nothing else.
* `Launcher.Launch.leaves_exec_main` — a run leaves at each location what it can.
* `Launcher.Launch.MayLeave.of_startedCommand?_eq_none` — a run that starts nothing leaves new
  directories at most.
-/

namespace Launcher

open Launcher.Action

/-! ## Actions that change the machine in one way -/

namespace Action

variable {α β : Type} {R : Machine → Machine → Prop} {codes : List ExitCode} {action : Action α}
  {next : α → Action β} {w w' : World}

/-- Whatever comes of the action, the machine that it leaves is related to the one that it finds. -/
def Moves (R : Machine → Machine → Prop) (action : Action α) : Prop :=
  ∀ w, R w.bare (exec action w).2.bare

/-- The machine after a run is related to the one before it. -/
theorem Moves.of_exec {result : Except Stop α} (h : Moves R action)
    (hexec : exec action w = (result, w')) : R w.bare w'.bare := by
  have hmoves := h w
  rw [hexec] at hmoves
  exact hmoves

/-- A value leaves the machine as it is, which every reflexive relation allows for. -/
theorem Moves.pure [Std.Refl R] (a : α) : Moves R (Pure.pure a) := fun w => refl w.bare

/-- A failure leaves the machine as it is, which every reflexive relation allows for. -/
theorem Moves.fail [Std.Refl R] (failure : Failure) : Moves R (Action.fail failure : Action α) :=
  fun w => refl w.bare

/-- An action that keeps the machine changes it in any way that allows for that. -/
theorem Keeps.moves [Std.Refl R] (h : Keeps World.bare codes action) : Moves R action := by
  intro w
  rw [h.view_eq w]
  exact refl w.bare

/-- **Two changes of one way are one change of this way.** -/
theorem Moves.bind [IsTrans Machine R] (hfirst : Moves R action) (hnext : ∀ a, Moves R (next a)) :
    Moves R (action >>= next) := by
  intro w
  rw [exec_bind]
  rcases hexec : exec action w with ⟨stop | a, w₁⟩
  · exact hfirst.of_exec hexec
  · exact IsTrans.trans _ _ _ (hfirst.of_exec hexec) (hnext a w₁)

end Action

/-! ## Creating directories -/

namespace Directory

/-- **Creating a directory furnishes the way to it.** -/
theorem moves_create (path : Path) (mode : Int) :
    Moves (Machine.Furnishes mode path.chain) (create path mode) :=
  furnishes_exec_createAll mode path.chain

end Directory

/-! ## Replacing a file -/

namespace WholeFile

variable {path : Path}

/-- **Replacing a file touches nothing else,** whatever comes of it. -/
theorem moves_replace (path : Path) (content : Bytes) :
    Moves (Machine.Refiles path) (replace path content) := by
  intro w
  rcases exec_replace_cases path content w with hexec | ⟨_, _, _, w', hexec, hreplaced⟩
  · rw [hexec]
    exact refl w.bare
  · rw [hexec]
    exact hreplaced.refiles

end WholeFile

/-! ## The stages of a launch -/

namespace Launch

open Machine

variable {tokens command : List Text} {plan : Plan} {location : Location} {w w₁ : World}

/-- The permission bits that a plan asks for are those that the environment sets. -/
theorem readMode_of_exec_settle (h : exec (settle tokens) w = (.ok plan, w₁)) :
    Settings.readMode (Settings.given? w.process.environment "LAUNCHKIT_DIR_MODE") =
      .ok plan.directoryMode := by
  obtain ⟨settings, hread, -, hplan⟩ := exec_makePlan_of_exec_settle h
  rw [(of_exec_makePlan hplan).2.1]
  exact (Settings.read_eq_ok.1 hread).1

/-- A run that has settled what it is about has settled its output base. -/
theorem chosenBase?_of_exec_settle (hquery : Query.ofTokens tokens = none)
    (h : exec (settle tokens) w = (.ok plan, w₁)) : chosenBase? tokens w = some plan.base := by
  rw [chosenBase?, hquery, h]

/-- What a launch does with a plan before it proceeds: the way to the output base is furnished. -/
theorem moves_createBase (plan : Plan) :
    Moves (Furnishes plan.directoryMode (Path.text plan.base).chain) (createBase plan) := by
  refine Moves.bind (Directory.moves_create _ _) fun created => ?_
  rcases created with e | ⟨⟩
  · exact Moves.fail _
  · exact Moves.pure _

/-- **Preparing furnishes the way to the output base,** as far as it comes. -/
theorem furnishes_exec_prepare (h : exec (settle tokens) w = (.ok plan, w₁)) :
    Furnishes plan.directoryMode (Path.text plan.base).chain w.bare
      (exec (prepare tokens) w).2.bare := by
  have hcreate : Moves (Furnishes plan.directoryMode (Path.text plan.base).chain) (do
      createBase plan
      return plan) :=
    Moves.bind (moves_createBase plan) fun _ => Moves.pure _
  rw [prepare, exec_bind_of_ok h, ← (keeps_settle tokens).bare.view_eq_of_exec h]
  exact hcreate w₁

/-- Recording a command touches nothing but the record. -/
theorem moves_recordCommand (base : Text) (command : List Text) :
    Moves (Refiles (.text (base.joinPath recordName))) (recordCommand base command) := by
  refine Moves.bind (WholeFile.moves_replace _ _) fun written => ?_
  rcases written with e | ⟨⟩
  · have hlog : Keeps World.bare [] (Action.log Level.warning (lit "Could not record command in " ++
        base.joinPath recordName ++ lit ": " ++ e.render)) := (keeps_log _ _).bare
    exact hlog.moves
  · exact Moves.pure _

/-- A launch that has settled nothing has changed nothing. -/
theorem bare_exec_run_of_exec_settle {stop : Stop}
    (h : exec (settle tokens) w = (.error stop, w₁)) : (exec (run tokens) w).2.bare = w.bare := by
  rw [run_eq, prepare, exec_bind_of_error (exec_bind_of_error h)]
  exact (keeps_settle tokens).bare.view_eq_of_exec h

/-- **A launch that starts nothing furnishes the way to its output base at most.** -/
theorem furnishes_exec_run (hsettle : exec (settle tokens) w = (.ok plan, w₁))
    (h : resolvedCommand? tokens w = none) :
    Furnishes plan.directoryMode (Path.text plan.base).chain w.bare
      (exec (run tokens) w).2.bare := by
  have hfurnishes := furnishes_exec_prepare hsettle
  rcases hprepare : exec (prepare tokens) w with ⟨stop | plan', w₂⟩
  · rw [hprepare] at hfurnishes
    rw [run_eq, exec_bind_of_error hprepare]
    exact hfurnishes
  · rw [hprepare] at hfurnishes
    rw [resolvedCommand?_of_exec_prepare hprepare] at h
    obtain ⟨log, hproceed⟩ := exists_exec_proceed plan' w₂
    rw [run_eq, exec_bind_of_ok hprepare, hproceed]
    rcases hcommand : plan'.command with _ | ⟨program, arguments⟩
    · have hreport : Keeps World.bare [] (report plan'.options plan'.user plan'.base) :=
        (keeps_report _ _ _).bare
      show Furnishes _ _ _
        (exec (report plan'.options plan'.user plan'.base) (w₂.withLog log)).2.bare
      rw [hreport.view_eq (w₂.withLog log)]
      exact hfurnishes
    · rcases hpath : Program.path? program w₂ with _ | path
      · simp only [hpath]
        exact hfurnishes
      · simp [hcommand, hpath] at h

/-- **A launch that starts a command touches the record once the way to it is furnished.** -/
theorem refiles_exec_run (h : resolvedCommand? tokens w = some command) :
    ∃ plan w₁ middle, exec (settle tokens) w = (.ok plan, w₁) ∧ plan.command = command ∧
      command ≠ [] ∧
      Furnishes plan.directoryMode (Path.text plan.base).chain w.bare middle ∧
      Refiles (.text (plan.base.joinPath recordName)) middle (exec (run tokens) w).2.bare := by
  obtain ⟨plan, path, w₂, log, hprepare, rfl, hrun⟩ := exec_run_of_resolvedCommand?_eq_some h
  obtain ⟨⟨w₁, hsettle⟩, -⟩ := of_exec_prepare hprepare
  have hfurnishes := furnishes_exec_prepare hsettle
  have htakeOver : Moves (Refiles (.text (plan.base.joinPath recordName)))
      (takeOver plan.options path plan.command) := (keeps_takeOver _ _ _).bare.moves
  rw [hprepare] at hfurnishes
  refine ⟨plan, w₁, w₂.bare, hsettle, rfl, fun hnil => ?_, hfurnishes, ?_⟩
  · rw [resolvedCommand?_of_exec_prepare hprepare, hnil] at h
    cases h
  · rw [hrun]
    exact (moves_recordCommand plan.base plan.command).bind (fun _ => htakeOver) (w₂.withLog log)

/-- A launch that starts a command has found it in the tokens, and its settings do not hand the
command line over. -/
theorem of_resolvedCommand?_eq_some (h : resolvedCommand? tokens w = some command) :
    command ≠ [] ∧ (∃ options, CommandLine.read tokens = .ok { options, command }) ∧
      ∃ settings, Settings.read w.process.environment = .ok settings ∧
        settings.recipient? = none := by
  obtain ⟨plan, w₁, middle, hsettle, rfl, hne, -⟩ := refiles_exec_run h
  obtain ⟨settings, hread, hrecipient, -⟩ := exec_makePlan_of_exec_settle hsettle
  exact ⟨hne, ⟨plan.options, read_of_exec_settle hsettle⟩, settings, hread, hrecipient⟩

/-! ## A run -/

/-- What a run can leave at a location, in place of what was there.

* It can leave it as it was.
* It can create a directory where nothing was, if a beginning of the chosen output base leads there.
  The permission bits are the lowest ten of those that the environment sets, without the mask.
* It can create, replace or remove a file, if the path of the record leads there and the run has
  found the program of a command. -/
inductive MayLeave (tokens : List Text) (w : World) (after : Machine) (location : Location) :
    Option Node → Option Node → Prop
  | kept (node : Option Node) : MayLeave tokens w after location node node
  | created {base start : Text} {mode : Int} {bits : Nat}
      (chosen : chosenBase? tokens w = some base) (beginning : start ∈ beginnings slash base)
      (named : after.Names (.text start) location)
      (asked : Settings.readMode (Settings.given? w.process.environment "LAUNCHKIT_DIR_MODE") =
        .ok mode)
      (masked : ∀ i, bits.testBit i =
        ((mode % 0o2000).toNat.testBit i && !w.machine.umask.testBit i)) :
      MayLeave tokens w after location none (some (.directory bits))
  | recorded {base : Text} {command : List Text} {old new : Option Node}
      (chosen : chosenBase? tokens w = some base)
      (named : after.Names (.text (base.joinPath recordName)) location)
      (started : startedCommand? tokens w = some command) (ne_nil : command ≠ [])
      (oldFile : IsNoDirectory old) (newFile : IsNoDirectory new) :
      MayLeave tokens w after location old new

/-- The count of calls does not matter. -/
theorem MayLeave.of_made {after : Machine} {made : List CallKind} {old new : Option Node}
    (h : MayLeave tokens w { after with made } location old new) :
    MayLeave tokens w after location old new := by
  cases h with
  | kept => exact .kept _
  | created chosen beginning named asked masked =>
    exact .created chosen beginning named asked masked
  | recorded chosen named started ne_nil oldFile newFile =>
    exact .recorded chosen named started ne_nil oldFile newFile

/-- **A run that starts nothing creates directories at most.** -/
theorem MayLeave.of_startedCommand?_eq_none {after : Machine} {old new : Option Node}
    (h : MayLeave tokens w after location old new) (hnone : startedCommand? tokens w = none) :
    new = old ∨ old = none ∧ ∃ bits, new = some (.directory bits) := by
  cases h with
  | kept => exact Or.inl rfl
  | created _ _ _ _ _ => exact Or.inr ⟨rfl, _, rfl⟩
  | recorded _ _ started _ _ _ =>
    rw [hnone] at started
    cases started

/-- Where the way to the output base has been furnished, a node is kept or a directory created. -/
theorem leaves_of_furnishes {middle after : Machine} (hquery : Query.ofTokens tokens = none)
    (hsettle : exec (settle tokens) w = (.ok plan, w₁))
    (hfurnishes : Furnishes plan.directoryMode (Path.text plan.base).chain w.bare middle)
    (hafter : middle.Extends after) (location : Location) :
    MayLeave tokens w after location (w.bare.tree.get? location) (middle.tree.get? location) := by
  rcases hfurnishes.node location with hsame | ⟨hnone, hnew, path, hpath, hnames⟩
  · rw [hsame]
    exact .kept _
  · obtain ⟨start, hstart, rfl⟩ := List.mem_map.1 hpath
    rw [hnone, hnew]
    exact .created (chosenBase?_of_exec_settle hquery hsettle) hstart (hnames.of_extends hafter)
      (readMode_of_exec_settle hsettle) (testBit_bitsOf w.bare plan.directoryMode)

/-- **At each location a run leaves what it can.** -/
theorem leaves_exec_main (tokens : List Text) (w : World) (location : Location) :
    MayLeave tokens w (exec (main tokens) w).2.bare location (w.nodeAt location)
      ((exec (main tokens) w).2.nodeAt location) := by
  show MayLeave tokens w _ location (w.bare.tree.get? location)
    ((exec (main tokens) w).2.bare.tree.get? location)
  rcases hquery : Query.ofTokens tokens with _ | query
  · rw [bare_exec_main_of_work hquery]
    rcases hresolved : resolvedCommand? tokens w with _ | command
    · rcases hsettle : exec (settle tokens) w with ⟨stop | plan, w₁⟩
      · rw [bare_exec_run_of_exec_settle hsettle]
        exact .kept _
      · exact leaves_of_furnishes hquery hsettle (furnishes_exec_run hsettle hresolved)
          (Extends.refl _) location
    · obtain ⟨plan, w₁, middle, hsettle, -, hne, hfurnishes, hrefiles⟩ := refiles_exec_run hresolved
      have hleaves := leaves_of_furnishes hquery hsettle hfurnishes hrefiles.toExtends location
      rcases hrefiles.node location with hsame | ⟨hold, hnew, hnames⟩
      · rw [hsame]
        exact hleaves
      · -- No directory has been created where the file is: the node there is still the first one.
        have hkept : middle.tree.get? location = w.bare.tree.get? location := by
          rcases hfurnishes.node location with hkept | ⟨-, hdirectory, -⟩
          · exact hkept
          · exact absurd hdirectory (hold _)
        exact .recorded (chosenBase?_of_exec_settle hquery hsettle) hnames
          (startedCommand?_eq_some.2 ⟨hquery, hresolved⟩) hne (hkept ▸ hold) hnew
  · rw [bare_exec_main_of_query hquery]
    exact .kept _

end Launch

end Launcher
