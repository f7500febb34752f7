import Launcher.Proofs.Launch.LastCommand
import Launcher.Proofs.Launch.Order
import Launcher.Proofs.PartialFile

/-!
# The record of the last command under faults

Whatever faults strike, a launch that starts nothing leaves the record as it was, and one that has
found its program leaves of it what is left of a file that is replaced by its command.

## Main definitions

* `Launcher.Launch.reportedStatus?` — the status that a run reports.

## Main results

* `Launcher.Launch.contentAt_exec_main` — a run that starts nothing leaves the record alone.
* `Launcher.Launch.leaves_of_startedCommand?` — what a run that starts a command leaves of it.
* `Launcher.Launch.exists_status_of_exec_main` — what a report shows of the record.
-/

namespace Launcher.Launch

open Launcher.Action WholeFile

variable {base : Text} {tokens command : List Text} {plan : Plan} {location : Location}
  {w w' : World}

/-! ## The place of the record -/

/-- The path of the record names no other place. -/
theorem location_of_resolve_record (hroot : base.head? = some slash) (m : Machine) (target : Target)
    (h : m.resolve (Path.text (base.joinPath recordName)).toBytes = .ok target) :
    target.location = recordLocation base := by
  have hname : recordName.head? ≠ some slash := by decide
  obtain ⟨rest, hrest⟩ := Text.exists_joinPath_eq_append base hname
  obtain ⟨tail, rfl⟩ := List.head?_eq_some_iff.1 hroot
  refine Machine.location_of_resolve ?_ h
  rw [hrest]
  rfl

/-! ## What a run leaves of the record -/

/-- Recording a command leaves of the record what is left of a file that is replaced. -/
theorem leaves_of_exec_recordCommand {result : Except Stop Unit} (hroot : base.head? = some slash)
    (h : exec (recordCommand base command) w = (result, w')) :
    ∃ calls, w.Makes calls w' ∧ Leaves (Record.encode command) (WritesWhole calls)
      (w.contentAt (recordLocation base)) (w'.contentAt (recordLocation base)) := by
  unfold recordCommand at h
  rcases hreplace : exec (replace (.text (base.joinPath recordName)) (Record.encode command)) w
    with ⟨stop | written, w₁⟩
  · rw [exec_bind_of_error hreplace] at h
    cases h
    exact leaves_of_exec_replace (location_of_resolve_record hroot) hreplace
  · obtain ⟨calls, hmakes, hleaves⟩ :=
      leaves_of_exec_replace (location_of_resolve_record hroot) hreplace
    rw [exec_bind_of_ok hreplace] at h
    have hkept : w'.besides [.log] = w₁.besides [.log] := by
      rcases written with e | ⟨⟩
      · exact (@keeps_log [] _ _).view_eq_of_exec h
      · cases h
        rfl
    have hbare := World.bare_eq_of_besides_eq hkept
    have htrace := World.trace_eq_of_besides_eq hkept
    rw [World.contentAt_eq_of_bare_eq hbare]
    exact ⟨calls, htrace.trans hmakes, hleaves⟩

/-- Preparing touches no file. -/
theorem keeps_contentAt_prepare (location : Location) (tokens : List Text) :
    Keeps (World.contentAt location) [.badArguments, .environment] (prepare tokens) :=
  Keeps.bind ((keeps_settle tokens).contentAt location) fun _ =>
    Keeps.bind ((keeps_createBase (Directory.keeps_contentAt_create _ _)).mono (by simp)) fun _ =>
      Keeps.pure _

/-- Preparing makes some calls. -/
theorem exists_makes_of_exec_prepare (h : exec (prepare tokens) w = (.ok plan, w')) :
    ∃ calls, w.Makes calls w' := by
  obtain ⟨plan', w₁, hsettle, h⟩ := exec_bind_eq_ok.1 h
  obtain ⟨_, w₂, hcreate, h⟩ := exec_bind_eq_ok.1 h
  cases h
  obtain ⟨settings, -, -, hplan⟩ := exec_makePlan_of_exec_settle hsettle
  have hmakes : (w.withThreshold settings.logLevel).Makes [] w₁ :=
    (keeps_makePlan settings tokens).makes hplan
  obtain ⟨calls, hcalls, -⟩ := creates_of_exec_createBase hcreate
  exact ⟨_, hmakes.trans hcalls⟩

/-- A program that takes over makes some calls, if only one. -/
theorem exists_makes_of_exec_takeOver {options : StartupOptions} {path : Text}
    {result : Except Stop Unit} (h : exec (takeOver options path command) w = (result, w')) :
    ∃ calls, w.Makes calls w' := by
  obtain ⟨log, htakeOver⟩ := exec_takeOver options path command w
  rw [htakeOver] at h
  obtain ⟨-, ⟨-, hmakes⟩ | ⟨answer, hmakes⟩⟩ := makes_of_exec_executeOrEnd h
  · exact ⟨_, hmakes⟩
  · exact ⟨_, hmakes⟩

/-- What takes over leaves the record as it has been left by then. -/
theorem leaves_of_exec_recordCommand_takeOver {options : StartupOptions} {path : Text}
    {result : Except Stop Unit} (hroot : base.head? = some slash)
    (h : exec (do recordCommand base command; takeOver options path command) w = (result, w')) :
    ∃ calls, w.Makes calls w' ∧ Leaves (Record.encode command) (WritesWhole calls)
      (w.contentAt (recordLocation base)) (w'.contentAt (recordLocation base)) := by
  rcases hrecord : exec (recordCommand base command) w with ⟨stop | ⟨⟩, w₁⟩
  · rw [exec_bind_of_error hrecord] at h
    cases h
    exact leaves_of_exec_recordCommand hroot hrecord
  · obtain ⟨calls, hmakes, hleaves⟩ := leaves_of_exec_recordCommand hroot hrecord
    rw [exec_bind_of_ok hrecord] at h
    obtain ⟨calls', hmakes'⟩ := exists_makes_of_exec_takeOver h
    have hkeeps := (keeps_takeOver options path command).contentAt (recordLocation base)
    refine ⟨_, hmakes.trans hmakes', ?_⟩
    rw [hkeeps.view_eq_of_exec h]
    exact hleaves.mono fun hwhole => hwhole.mono (List.subset_append_left _ _)

/-- The output base of a run that has been prepared is the one that it was to choose, and is named
from the root. -/
theorem Chooses.base_of_exec_prepare (h : Chooses base tokens w)
    (hquery : Query.ofTokens tokens = none) (hprepare : exec (prepare tokens) w = (.ok plan, w')) :
    plan.base = base ∧ base.head? = some slash := by
  obtain ⟨⟨w₁, hsettle⟩, hdirectory⟩ := Launch.of_exec_prepare hprepare
  obtain rfl := h.base_eq hquery hsettle
  exact ⟨rfl, head?_eq_slash_of_isDirectory (of_exec_settle h.rooted hsettle).2 hdirectory⟩

/-- A run that starts nothing touches no record. -/
theorem contentAt_exec_main (h : startedCommand? tokens w = none) :
    (exec (main tokens) w).2.contentAt location = w.contentAt location := by
  unfold startedCommand? at h
  rcases hquery : Query.ofTokens tokens with _ | query
  · rw [hquery] at h
    exact (World.contentAt_eq_of_bare_eq (bare_exec_main_of_work hquery w) _).trans
      (view_eq_of_resolvedCommand?_eq_none (fun _ _ => rfl)
        (fun _ _ _ => (keeps_report _ _ _).contentAt _)
        ((keeps_contentAt_prepare _ tokens).view_eq w) h)
  · exact World.contentAt_eq_of_bare_eq (bare_exec_main_of_query hquery w) _

/-- **What a run that starts a command leaves of the record,** whatever faults strike. -/
theorem leaves_of_startedCommand? (hchooses : Chooses base tokens w)
    (h : startedCommand? tokens w = some command) :
    ∃ calls, w.Makes calls (exec (main tokens) w).2 ∧
      Leaves (Record.encode command) (WritesWhole calls) (w.contentAt (recordLocation base))
        ((exec (main tokens) w).2.contentAt (recordLocation base)) := by
  obtain ⟨hquery, hresolved⟩ := startedCommand?_eq_some.1 h
  obtain ⟨plan, path, w₁, log, hprepare, rfl, hrun⟩ :=
    exec_run_of_resolvedCommand?_eq_some hresolved
  obtain ⟨rfl, hroot⟩ := hchooses.base_of_exec_prepare hquery hprepare
  have htrace := trace_exec_main_of_work hquery w
  rw [World.contentAt_eq_of_bare_eq (bare_exec_main_of_work hquery w)]
  obtain ⟨calls, hprepared⟩ := exists_makes_of_exec_prepare hprepare
  have hkept := (keeps_contentAt_prepare (recordLocation plan.base) tokens).view_eq_of_exec hprepare
  have hsame : (w₁.withLog log).contentAt (recordLocation plan.base) =
      w.contentAt (recordLocation plan.base) := hkept
  rcases hend : exec (run tokens) w with ⟨result, w₂⟩
  rw [hend] at hrun htrace
  obtain ⟨calls', hmakes, hleaves⟩ := leaves_of_exec_recordCommand_takeOver hroot hrun.symm
  rw [hsame] at hleaves
  exact ⟨calls ++ calls', htrace.trans (hprepared.trans hmakes),
    hleaves.mono fun hwhole => hwhole.mono (List.subset_append_right _ _)⟩

/-- The command of a run is one of words that the system hands over. -/
theorem isArgument_of_startedCommand? (hchooses : Chooses base tokens w)
    (h : startedCommand? tokens w = some command) : ∀ word ∈ command, IsArgument word := by
  obtain ⟨-, hresolved⟩ := startedCommand?_eq_some.1 h
  obtain ⟨plan, path, w₁, log, hprepare, rfl, -⟩ := exec_run_of_resolvedCommand?_eq_some hresolved
  obtain ⟨⟨w₂, hsettle⟩, -⟩ := Launch.of_exec_prepare hprepare
  intro word hword
  exact hchooses.words word
    (CommandLine.mem_tokens_of_mem_command (read_of_exec_settle hsettle) hword)

/-! ## What a report shows of the record -/

/-- The status of a run, if it answers no question and comes as far as to read one. -/
def reportedStatus? (tokens : List Text) (w : World) : Option Status :=
  match Query.ofTokens tokens, exec (survey tokens) w with
  | none, (.ok status?, _) => status?
  | _, _ => none

/-- **What a report shows of the record,** whatever faults strike: the words of a beginning of it,
and of the whole of it if no read comes back empty too early. -/
theorem exists_status_of_exec_main {options : StartupOptions} (hchooses : Chooses base tokens w)
    (hwritten : w.written = []) (hquery : Query.ofTokens tokens = none)
    (hread : CommandLine.read tokens = .ok { options, command := [] })
    (h : exec (main tokens) w = (.ok ExitCode.success.number, w')) :
    ∃ (status : Status) (cs : List Char), reportedStatus? tokens w = some status ∧
      (Report.text options.json status).chars? = some cs ∧ w'.process.output = ⟨cs, []⟩ ∧
      ∀ shown ∈ status.lastCommand, ∃ old n, w.contentAt (recordLocation base) = some old ∧
        shown = Record.decode (old.take n) ∧ (ReadsWhole w.faults → shown = Record.decode old) := by
  obtain ⟨plan, status, w₁, w₂, w₃, hprepare, hview₂, hstatus, hsurvey, hwritten₃, hemit⟩ :=
    exists_status_of_exec_run hread (exec_run_of_exec_main_success hquery h)
  obtain ⟨rfl, hroot⟩ := hchooses.base_of_exec_prepare hquery hprepare
  obtain ⟨cs, hcs, houtput⟩ := Report.text_of_exec_emit (hwritten₃.trans hwritten) hemit
  refine ⟨status, cs, by rw [reportedStatus?, hquery, hsurvey], hcs, houtput,
    fun shown hshown => ?_⟩
  obtain ⟨record, w₄, w₅, hview₄, hrecord, hlastCommand⟩ := lastCommand_of_exec_readStatus hstatus
  rw [hlastCommand] at hshown
  obtain ⟨content, rfl, rfl⟩ := Option.map_eq_some_iff.1 hshown
  obtain ⟨old, n, hold, hcontent, hwhole⟩ :=
    exists_take_of_exec_read? (location_of_resolve_record hroot) hrecord
  have hbare₄ : w₄.bare = w₁.bare := congrArg Prod.fst (hview₄.trans hview₂)
  have hkept : w₁.contentAt (recordLocation plan.base) = w.contentAt (recordLocation plan.base) :=
    (keeps_contentAt_prepare _ tokens).view_eq_of_exec hprepare
  rw [World.contentAt_eq_of_bare_eq hbare₄, hkept] at hold
  refine ⟨old, n, hold, congrArg Record.decode hcontent, fun hreads => ?_⟩
  have hfaults : w₄.faults = w.faults := (World.faults_eq_of_bare_eq hbare₄).trans
    ((keeps_prepare tokens).faults.view_eq_of_exec hprepare)
  rw [← hfaults] at hreads
  exact congrArg Record.decode (hwhole hreads)

end Launcher.Launch
