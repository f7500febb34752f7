import Launcher.Proofs.Directory.Attempts
import Launcher.Proofs.Launch.Breaks
import Launcher.Proofs.WholeFile.Replacing
import Launcher.Session

/-!
# The order of the calls of a launch

Whatever faults strike, a launch makes its calls in one order: the directories on the way to the
output base, then either the record is read, or it is replaced and the program executed. A call that
fails cuts this short in a way of its own. A launch that hands over makes no call but that. Only
interruptions that never cease keep a launch from coming to an end: then it reads on and on.

## Main definitions

* `Launcher.Creates` — calls that create directories or find them there, perhaps with one more that
  is an obstacle.
* `Launcher.ReadsFile` and `Launcher.ReplacesFile` — the calls that read and replace a file.
* `Launcher.WorkInOrder` and `Launcher.InOrder` — the calls of the work, and of a run.
* `Launcher.StillReads` — the calls so far of a run that never ends.

## Main results

* `Launcher.Launch.proceeds_exec_main` — a run makes its calls in order.
* `Launcher.Session.inOrder_trace_main` — so does a run in a session.
-/

namespace Launcher

open Launcher.Action

variable {m m' m'' : Machine} {calls : List (Call × Answer)} {tokens : List Text} {w w' w'' : World}

/-! ## Calls in order -/

/-- Calls that create directories, up to the first obstacle if there is one: a failure, unless it is
that the directory is there. -/
inductive Creates (m : Machine) : List (Call × Answer) → Prop
  | passed {calls : List (Call × Answer)} {m' : Machine} (h : Passed m calls m') : Creates m calls
  | blocked {calls : List (Call × Answer)} {m' : Machine} {path : Path} {mode : Int} {e : Errno}
      (h : Passed m calls m') (obstacle : e = .alreadyExists → m'.isDirectory path = false) :
      Creates m (calls ++ [(.makeDirectory path mode, .error e)])

/-- The calls that read a file: chunk by chunk if it can be opened, and then it is closed. -/
inductive ReadsFile : List (Call × Answer) → Prop
  | notOpened (path : Path) (e : Errno) : ReadsFile [(.openToRead path, .error e)]
  | opened (path : Path) {reads : List Answer} (read : reads ≠ []) (closed : Answer) :
      ReadsFile ((.openToRead path, .ok) ::
        reads.map (Call.read WholeFile.chunkSize, ·) ++ [(.close, closed)])

/-- The calls that replace a file: it is removed, unless it is not there; then the new one is
opened, and, if it can be, written and closed. -/
inductive ReplacesFile : List (Call × Answer) → Prop
  | kept (path : Path) {e : Errno} (h : e ≠ .noEntry) : ReplacesFile [(.unlink path, .error e)]
  | notOpened (path : Path) {removed : Answer} (h : removed = .ok ∨ removed = .error .noEntry)
      (e : Errno) : ReplacesFile [(.unlink path, removed), (.openToWrite path, .error e)]
  | opened (path : Path) {removed : Answer} (h : removed = .ok ∨ removed = .error .noEntry)
      (length : Nat) (written closed : Answer) :
      ReplacesFile [(.unlink path, removed), (.openToWrite path, .ok), (.write length, written),
        (.close, closed)]

/-- The calls of the work of a launch: the output base is created, and then the record is read, or
replaced for a program that is executed. -/
inductive WorkInOrder (tokens : List Text) (m : Machine) : List (Call × Answer) → Prop
  /-- Nothing comes behind the output base, or not even that has been created. -/
  | created {calls : List (Call × Answer)} (h : Creates m calls) : WorkInOrder tokens m calls
  /-- The record is read for a report. -/
  | reported {calls reading : List (Call × Answer)} {m' : Machine} (h : Passed m calls m')
      (read : ReadsFile reading) : WorkInOrder tokens m (calls ++ reading)
  /-- The command is recorded, and has an argument with which nothing can be executed. -/
  | refused {calls recording : List (Call × Answer)} {m' : Machine} (h : Passed m calls m')
      (recorded : ReplacesFile recording) (zero : ∃ token ∈ tokens, Symbol.char '\x00' ∈ token) :
      WorkInOrder tokens m (calls ++ recording)
  /-- The command is recorded and its program executed. -/
  | launched {calls recording : List (Call × Answer)} {m' : Machine} (h : Passed m calls m')
      (recorded : ReplacesFile recording) (program : Text) (command : List Text) (answer : Answer) :
      WorkInOrder tokens m (calls ++ recording ++ [(.execute program command, answer)])

/-- **The calls of a run on a machine,** in the order in which it makes them: the one that hands the
command line over, or those of the work. -/
inductive InOrder (tokens : List Text) (m : Machine) : List (Call × Answer) → Prop
  | handedOver (delegate : Text) (answer : Answer) :
      InOrder tokens m [(.execute delegate (delegate :: tokens), answer)]
  | worked {calls : List (Call × Answer)} (h : WorkInOrder tokens m calls) : InOrder tokens m calls

/-- The work may end with the output base. -/
theorem WorkInOrder.of_passed (h : Passed m calls m') : WorkInOrder tokens m (calls ++ []) := by
  rw [List.append_nil]
  exact .created (.passed h)

/-- No calls at all are in order. -/
theorem InOrder.nil : InOrder tokens m [] := .worked (.created (.passed (.done m)))

/-- The calls so far of a run that never ends: the output base is there, the record has been opened,
and read after read has been interrupted or has given something. -/
inductive StillReads (m : Machine) : List (Call × Answer) → Prop
  | reading {calls : List (Call × Answer)} {m' : Machine} (h : Passed m calls m') (path : Path)
      {answers : List Answer} (going : WholeFile.GoesOn answers) :
      StillReads m
        (calls ++ (.openToRead path, .ok) :: answers.map (Call.read WholeFile.chunkSize, ·))

/-- The calls are in order if what makes them comes to an end. Else they still read. -/
structure Proceeds {α : Type} (ordered : List (Call × Answer) → Prop) (m : Machine)
    (result : Except Stop α) (calls : List (Call × Answer)) : Prop where
  ended : result ≠ .error .unending → ordered calls
  unending : result = .error .unending → StillReads m calls

/-- What comes to an end proceeds in order. -/
theorem Proceeds.of_ended {α : Type} {ordered : List (Call × Answer) → Prop}
    {result : Except Stop α} (hends : result ≠ .error .unending) (h : ordered calls) :
    Proceeds ordered m result calls := ⟨fun _ => h, fun hunending => absurd hunending hends⟩

/-- What says why it fails proceeds in order. -/
theorem Proceeds.of_isSaid {α : Type} {ordered : List (Call × Answer) → Prop} {stop : Stop}
    (hsaid : stop.IsSaid) (h : ordered calls) :
    Proceeds ordered m (.error stop : Except Stop α) calls :=
  .of_ended (fun hstop => hsaid.ne_unending (Except.error.inj hstop)) h

/-- Calls in one order may be in another one, too. -/
theorem Proceeds.mono {α : Type} {ordered ordered' : List (Call × Answer) → Prop}
    {result : Except Stop α} (h : Proceeds ordered m result calls)
    (hordered : ordered calls → ordered' calls) : Proceeds ordered' m result calls :=
  ⟨fun hends => hordered (h.ended hends), h.unending⟩

/-! ### The count of calls does not matter -/

/-- A call for a directory passes whatever calls have been counted before. -/
theorem Passes.with_made {call : Call × Answer} (h : Passes m call m') (made : List CallKind) :
    Passes { m with made } call { m' with made } := by
  cases h with
  | created h =>
    refine .created ?_
    rw [Machine.makeDirectory_made, h]
    rfl
  | existing h => exact .existing h

/-- Calls for directories pass whatever calls have been counted before. -/
theorem Passed.with_made (h : Passed m calls m') (made : List CallKind) :
    Passed { m with made } calls { m' with made } := by
  induction h with
  | done m => exact .done _
  | next first _ ih => exact .next (first.with_made made) ih

/-- An output base is created, or not, whatever calls have been counted before. -/
theorem Creates.with_made (h : Creates m calls) (made : List CallKind) :
    Creates { m with made } calls := by
  cases h with
  | passed h => exact .passed (h.with_made made)
  | blocked h obstacle => exact .blocked (h.with_made made) obstacle

/-- The calls of the work are in order whatever calls have been counted before. -/
theorem WorkInOrder.with_made (h : WorkInOrder tokens m calls) (made : List CallKind) :
    WorkInOrder tokens { m with made } calls := by
  cases h with
  | created h => exact .created (h.with_made made)
  | reported h read => exact .reported (h.with_made made) read
  | refused h recorded zero => exact .refused (h.with_made made) recorded zero
  | launched h recorded program command answer =>
    exact .launched (h.with_made made) recorded program command answer

/-- The calls of a run are in order whatever calls have been counted before. -/
theorem InOrder.with_made (h : InOrder tokens m calls) (made : List CallKind) :
    InOrder tokens { m with made } calls := by
  cases h with
  | handedOver delegate answer => exact .handedOver delegate answer
  | worked h => exact .worked (h.with_made made)

/-- A run still reads whatever calls have been counted before. -/
theorem StillReads.with_made (h : StillReads m calls) (made : List CallKind) :
    StillReads { m with made } calls := by
  cases h with
  | reading h path going => exact .reading (h.with_made made) path going

/-! ### The first call -/

/-- The first call creates a directory, unless no directory is to be created. -/
theorem Passed.first_cases {call : Call × Answer} {rest : List (Call × Answer)}
    {front : List (Call × Answer)} (h : Passed m front m') (heq : front ++ rest = call :: calls) :
    rest = call :: calls ∨ ∃ path mode, call.1 = .makeDirectory path mode := by
  cases h with
  | done => exact Or.inl heq
  | next first _ =>
    obtain rfl := (List.cons.inj heq).1
    cases first with
    | created => exact Or.inr ⟨_, _, rfl⟩
    | existing => exact Or.inr ⟨_, _, rfl⟩

/-- The work does not begin by executing a program. -/
theorem WorkInOrder.first_ne_execute {call : Call × Answer} {all : List (Call × Answer)}
    (h : WorkInOrder tokens m all) (heq : all = call :: calls) (program : Text)
    (arguments : List Text) : call.1 ≠ .execute program arguments := by
  have hmake : (∃ path mode, call.1 = .makeDirectory path mode) →
      call.1 ≠ .execute program arguments := by
    rintro ⟨path, mode, hcall⟩ hexecute
    rw [hcall] at hexecute
    cases hexecute
  cases h with
  | created h =>
    cases h with
    | passed h =>
      rcases h.first_cases (by rw [List.append_nil]; exact heq) with hnil | hfirst
      · cases hnil
      · exact hmake hfirst
    | blocked h obstacle =>
      rcases h.first_cases heq with hrest | hfirst
      · cases hrest
        exact fun hexecute => by cases hexecute
      · exact hmake hfirst
  | reported h read =>
    rcases h.first_cases heq with rfl | hfirst
    · cases read <;> exact fun hexecute => by cases hexecute
    · exact hmake hfirst
  | refused h recorded zero =>
    rcases h.first_cases heq with rfl | hfirst
    · cases recorded <;> exact fun hexecute => by cases hexecute
    · exact hmake hfirst
  | launched h recorded program command answer =>
    rw [List.append_assoc] at heq
    rcases h.first_cases heq with hrest | hfirst
    · cases recorded <;> cases hrest <;> exact fun hexecute => by cases hexecute
    · exact hmake hfirst

/-- Nor does a run begin so that still reads. -/
theorem StillReads.first_ne_execute {call : Call × Answer} {all : List (Call × Answer)}
    (h : StillReads m all) (heq : all = call :: calls) (program : Text)
    (arguments : List Text) : call.1 ≠ .execute program arguments := by
  intro hexecute
  cases h with
  | reading h path going =>
    rcases h.first_cases heq with hrest | ⟨path', mode, hfirst⟩
    · cases hrest
      cases hexecute
    · cases hfirst.symm.trans hexecute

/-! ### The close -/

/-- Directories are passed by no other calls than those that create them. -/
theorem Passed.kind_eq (h : Passed m calls m') : ∀ call ∈ calls, call.1.kind = .makeDirectory := by
  induction h with
  | done => simp
  | next first _ ih =>
    refine List.forall_mem_cons.2 ⟨?_, ih⟩
    cases first <;> rfl

/-- A file is not replaced by opening it to read. -/
theorem ReplacesFile.kind_ne (h : ReplacesFile calls) (path : Path) (answer : Answer) :
    (.openToRead path, answer) ∉ calls := by
  cases h <;> simp

/-- **A file that has been opened to be read is closed.** -/
theorem InOrder.exists_close {path : Path} (h : InOrder tokens m calls)
    (hopened : (.openToRead path, .ok) ∈ calls) : ∃ closed, (.close, closed) ∈ calls := by
  have hpassed : ∀ {front : List (Call × Answer)} {m' : Machine}, Passed m front m' →
      (.openToRead path, .ok) ∉ front := fun h hmem => by cases h.kind_eq _ hmem
  cases h with
  | handedOver delegate answer => simp at hopened
  | worked h =>
    cases h with
    | created h =>
      cases h with
      | passed h => exact absurd hopened (hpassed h)
      | blocked h obstacle =>
        rcases List.mem_append.1 hopened with hfront | hlast
        · exact absurd hfront (hpassed h)
        · simp at hlast
    | reported h read =>
      rcases List.mem_append.1 hopened with hfront | hreading
      · exact absurd hfront (hpassed h)
      · cases read with
        | notOpened path e => simp at hreading
        | opened path read closed => exact ⟨closed, by simp⟩
    | refused h recorded zero =>
      rcases List.mem_append.1 hopened with hfront | hrecording
      · exact absurd hfront (hpassed h)
      · exact absurd hrecording (recorded.kind_ne path _)
    | launched h recorded program command answer =>
      rcases List.mem_append.1 hopened with hwork | hexecute
      · rcases List.mem_append.1 hwork with hfront | hrecording
        · exact absurd hfront (hpassed h)
        · exact absurd hrecording (recorded.kind_ne path _)
      · simp at hexecute

/-! ## Creating directories -/

namespace Directory

variable {path : Path} {mode : Int} {result : Except Stop (Except OsError Unit)}

/-- Directories are created in order, up to the first obstacle. -/
theorem creates_of_exec_createAll {paths : List Path}
    (h : exec (createAll mode paths) w = (result, w')) :
    ∃ calls, w.Makes calls w' ∧ Creates w.bare calls ∧
      (result = .ok (.ok ⟨⟩) → Passed w.bare calls w'.bare) := by
  obtain ⟨attempts, hmakes, hends⟩ := ends_createAll h
  refine ⟨callsOf mode attempts, hmakes, ?_, fun hok => ?_⟩
  · cases hends with
    | created passed all => exact .passed passed
    | blocked passed next obstacle =>
      rw [callsOf, List.map_append]
      exact .blocked passed obstacle
    | refused passed next reason => exact .passed passed
  · subst hok
    cases hends with
    | created passed all => exact passed

end Directory

/-! ## Reading and replacing a file -/

namespace WholeFile

variable {path : Path} {content : Bytes}

/-- Reading that comes to an end makes a call at least. -/
theorem ReadsOn.answers_ne_nil {strikes : Nat → Option Strike} {k : Nat} {reader : Reader}
    {answers : List Answer} {read : Except OsError Bytes}
    (h : ReadsOn strikes k reader answers read) : answers ≠ [] := by
  cases h <;> simp

/-- **The calls that read a file come in order,** unless its path cannot be given to the system, or
the reading never ends. -/
theorem readsFile_of_exec_read? {result : Except Stop (Option Bytes)}
    (h : exec (read? path) w = (result, w')) (hends : result ≠ .error .unending) :
    w.Makes [] w' ∨ ∃ calls, ReadsFile calls ∧ w.Makes calls w' := by
  rw [read?_eq] at h
  rcases exec_openToRead_cases path w with ⟨failure, hexec⟩ | ⟨e, hexec⟩ | ⟨reader, -, -, hexec⟩
  · rw [exec_bind_of_error hexec] at h
    cases h
    exact Or.inl (World.makes_of_trace_eq rfl)
  · have hlog : Keeps (World.besides [.log]) [] (do
        Action.log Level.debug
          (lit "Cannot open " ++ path.quoted ++ lit ": " ++ (OsError.of e (some path)).render)
        return (none : Option Bytes)) := Keeps.bind (keeps_log _ _) fun _ => Keeps.pure _
    rw [exec_bind_of_ok hexec] at h
    exact Or.inr ⟨_, .notOpened path e,
      (World.makes_afterCall rfl (.error e) w).trans (hlog.makes h)⟩
  · rw [exec_bind_of_ok hexec] at h
    rcases exec_readOpened_cases path reader (w.afterCall (.openToRead path) .ok) with
      ⟨answers, read, closed, _, _, hreads, hread, hmakes, -⟩ | ⟨_, _, hread, -⟩
    · cases hread.symm.trans h
      exact Or.inr ⟨_, .opened path hreads.answers_ne_nil closed,
        (World.makes_afterCall rfl _ w).trans hmakes⟩
    · cases hread.symm.trans h
      exact absurd rfl hends

/-- The calls by which a file is replaced come in order. -/
theorem Replaces.replacesFile {calls : List (Call × Answer)} {outcome : Except OsError Unit}
    {stored : Option Nat} (h : Replaces path content calls outcome stored) :
    ReplacesFile calls := by
  cases h with
  | kept h => exact .kept path h
  | notOpened h e => exact .notOpened path h e
  | opened h fills => cases fills <;> exact .opened path h _ _ _

/-- **The calls that replace a file come in order,** unless its path cannot be given to the
system. -/
theorem replacesFile_of_exec_replace (path : Path) (content : Bytes) (w : World) :
    (∃ stop, exec (replace path content) w = (.error stop, w)) ∨
      ∃ replaced w' calls, exec (replace path content) w = (.ok replaced, w') ∧
        ReplacesFile calls ∧ w.Makes calls w' := by
  rcases exec_replace_cases path content w with hexec | ⟨calls, outcome, _, w', hexec, hreplaced⟩
  · exact Or.inl ⟨_, hexec⟩
  · exact Or.inr ⟨outcome, w', calls, hexec, hreplaced.replaces.replacesFile, hreplaced.makes⟩

end WholeFile

/-! ## The stages of a launch -/

namespace Launch

variable {result : Except Stop Unit} {plan : Plan}

/-- A program is executed by one call, if it can be given to the system. -/
theorem makes_of_exec_executeOrEnd {program message : Text} {arguments : List Text}
    (h : exec (executeOrEnd program arguments message) w = (result, w')) :
    result ≠ .error .unending ∧
      (¬CanBeGiven program arguments ∧ w.Makes [] w' ∨
        ∃ answer, w.Makes [(.execute program arguments, answer)] w') := by
  by_cases hgiven : CanBeGiven program arguments
  · rcases exec_executeOrEnd_cases hgiven message w with ⟨e, hexec⟩ | hexec
    · rw [hexec] at h
      cases h
      exact ⟨by simp, Or.inr ⟨_, rfl⟩⟩
    · rw [hexec] at h
      cases h
      exact ⟨by simp, Or.inr ⟨_, rfl⟩⟩
  · obtain ⟨failure, hexec⟩ := exec_executeOrEnd_of_not_canBeGiven hgiven message w
    rw [hexec] at h
    cases h
    exact ⟨by simp, Or.inl ⟨hgiven, World.makes_of_trace_eq rfl⟩⟩

/-- The output base is created in order, up to the first obstacle. -/
theorem creates_of_exec_createBase (h : exec (createBase plan) w = (result, w')) :
    ∃ calls, w.Makes calls w' ∧ Creates w.bare calls ∧
      (result = .ok ⟨⟩ → Passed w.bare calls w'.bare) := by
  unfold createBase at h
  rcases hcreate : exec (Directory.create (.text plan.base) plan.directoryMode) w
    with ⟨stop | ⟨e | ⟨⟩⟩, w₁⟩
  · obtain ⟨calls, hmakes, hcreates, -⟩ := Directory.creates_of_exec_createAll hcreate
    rw [exec_bind_of_error hcreate] at h
    cases h
    exact ⟨calls, hmakes, hcreates, fun hok => by cases hok⟩
  · obtain ⟨calls, hmakes, hcreates, -⟩ := Directory.creates_of_exec_createAll hcreate
    rw [exec_bind_of_ok hcreate] at h
    cases h
    exact ⟨calls, hmakes, hcreates, fun hok => by cases hok⟩
  · obtain ⟨calls, hmakes, hcreates, hpassed⟩ := Directory.creates_of_exec_createAll hcreate
    rw [exec_bind_of_ok hcreate] at h
    cases h
    exact ⟨calls, hmakes, hcreates, fun _ => hpassed rfl⟩

/-- A report that comes to an end reads the record, and makes no other calls. -/
theorem readsFile_of_exec_report {options : StartupOptions} {user base : Text}
    (h : exec (report options user base) w = (result, w')) (hends : result ≠ .error .unending) :
    w.Makes [] w' ∨ ∃ calls, ReadsFile calls ∧ w.Makes calls w' := by
  have hinteractive : Keeps (World.besides []) [] Screen.isInteractive := Screen.keeps_isInteractive
  obtain hmakes | ⟨interactive, w₁, hmakes, h⟩ := hinteractive.makes_first h
  · exact Or.inl hmakes
  · have hearly : ∀ w₂, exec (WholeFile.read? (.text (base.joinPath recordName))) w₁ ≠
        (.error .unending, w₂) := by
      intro w₂ hread
      rw [exec_bind_of_error hread] at h
      exact hends (congrArg Prod.fst h).symm
    obtain ⟨early, w₂, hread, hlast⟩ := Keeps.makes_last [.output] []
      (fun record => Keeps.bind Screen.keeps_columns.widen fun _ => Report.keeps_emit _ _ _) h
    rcases WholeFile.readsFile_of_exec_read? hread fun hunending =>
      hearly w₂ (hunending ▸ hread) with hnothing | ⟨calls, hcalls, hmakes'⟩
    · exact Or.inl (hmakes.trans (hnothing.trans hlast))
    · have hall := hmakes.trans (hmakes'.trans hlast)
      rw [List.append_nil] at hall
      exact Or.inr ⟨calls, hcalls, hall⟩

/-- Recording a command replaces the record, and makes no other calls. -/
theorem replacesFile_of_exec_recordCommand (base : Text) (command : List Text) (w : World) :
    (∃ stop, exec (recordCommand base command) w = (.error stop, w)) ∨
      ∃ w' calls, exec (recordCommand base command) w = (.ok ⟨⟩, w') ∧
        ReplacesFile calls ∧ w.Makes calls w' := by
  unfold recordCommand
  rcases WholeFile.replacesFile_of_exec_replace (.text (base.joinPath recordName))
    (Record.encode command) w with
    ⟨stop, hreplace⟩ | ⟨e | ⟨⟩, w₁, calls, hreplace, hcalls, hmakes⟩
  · exact Or.inl ⟨stop, exec_bind_of_error hreplace⟩
  · obtain ⟨log, hlog⟩ := exists_exec_log Level.warning (lit "Could not record command in " ++
      base.joinPath recordName ++ lit ": " ++ e.render) w₁
    exact Or.inr ⟨_, calls, (exec_bind_of_ok hreplace).trans hlog, hcalls, hmakes⟩
  · exact Or.inr ⟨w₁, calls, exec_bind_of_ok hreplace, hcalls, hmakes⟩

/-- The calls of a launch that has found its program: the command is recorded, and the program
executed if it can be given to the system. -/
theorem workInOrder_of_exec_takeOver {calls : List (Call × Answer)} {program path : Text}
    {arguments : List Text} (hwords : ∀ word ∈ program :: arguments, word ∈ tokens)
    (hpassed : Passed m calls m') (hpath : Program.path? program w = some path)
    (h : exec (do
      recordCommand plan.base (program :: arguments)
      takeOver plan.options path (program :: arguments)) w = (result, w')) :
    result ≠ .error .unending ∧
      ∃ calls', w.Makes calls' w' ∧ WorkInOrder tokens m (calls ++ calls') := by
  rcases replacesFile_of_exec_recordCommand plan.base (program :: arguments) w with
    ⟨stop, hrecord⟩ | ⟨w₁, calls', hrecord, hcalls, hmakes⟩
  · rw [exec_bind_of_error hrecord] at h
    cases h
    have hsaid := says_recordCommand plan.base (program :: arguments) w stop w hrecord
    exact ⟨fun hstop => hsaid.ne_unending (Except.error.inj hstop), [],
      World.makes_of_trace_eq rfl, .of_passed hpassed⟩
  · obtain ⟨log, htakeOver⟩ := exec_takeOver plan.options path (program :: arguments) w₁
    rw [exec_bind_of_ok hrecord, htakeOver] at h
    obtain ⟨hends, ⟨hnot, hnothing⟩ | ⟨answer, hexecute⟩⟩ := makes_of_exec_executeOrEnd h
    · have hall : w.Makes (calls' ++ []) w' := World.Makes.trans hmakes hnothing
      rw [List.append_nil] at hall
      refine ⟨hends, calls', hall, .refused hpassed hcalls ?_⟩
      -- Without a zero byte in the command, nothing would stand in the way of the call.
      refine Decidable.byContradiction fun hzero => hnot ?_
      exact Program.canBeGiven_of_path? hpath fun word hword hmem =>
        hzero ⟨word, hwords word hword, hmem⟩
    · have hall := World.Makes.trans hmakes hexecute
      refine ⟨hends, _, hall, ?_⟩
      rw [← List.append_assoc]
      exact .launched hpassed hcalls path (program :: arguments) answer

/-- The calls of a report behind the output base. -/
theorem proceeds_of_exec_report {options : StartupOptions} {user base : Text}
    {calls : List (Call × Answer)} (hpassed : Passed m calls m')
    (h : exec (report options user base) w = (result, w')) :
    ∃ calls', w.Makes calls' w' ∧ Proceeds (WorkInOrder tokens m) m result (calls ++ calls') := by
  by_cases hends : result = .error .unending
  · subst hends
    rcases isSaid_or_readsForEver_of_exec_report h with hsaid | ⟨-, hreads⟩
    · exact absurd rfl hsaid.ne_unending
    · obtain ⟨path, answers, hgoes, hmakes⟩ := hreads.calls
      exact ⟨_, hmakes, fun hne => absurd rfl hne, fun _ => .reading hpassed path hgoes⟩
  · rcases readsFile_of_exec_report h hends with hmakes | ⟨calls', hcalls, hmakes⟩
    · exact ⟨[], hmakes, .of_ended hends (.of_passed hpassed)⟩
    · exact ⟨calls', hmakes, .of_ended hends (.reported hpassed hcalls)⟩

/-- The calls behind the output base are those of a report or of a program. -/
theorem proceeds_of_exec_proceed {calls : List (Call × Answer)}
    (hwords : ∀ word ∈ plan.command, word ∈ tokens) (hpassed : Passed m calls m')
    (h : exec (proceed plan) w = (result, w')) :
    ∃ calls', w.Makes calls' w' ∧ Proceeds (WorkInOrder tokens m) m result (calls ++ calls') := by
  obtain ⟨log, hproceed⟩ := exists_exec_proceed plan w
  rw [hproceed] at h
  rcases hcommand : plan.command with _ | ⟨program, arguments⟩
  · rw [hcommand] at h
    exact proceeds_of_exec_report (w := w.withLog log) hpassed h
  · simp only [hcommand] at h
    rcases hpath : Program.path? program w with _ | path
    · rw [hpath] at h
      cases h
      exact ⟨[], World.makes_of_trace_eq rfl, .of_ended (by simp) (.of_passed hpassed)⟩
    · rw [hpath] at h
      obtain ⟨hends, calls', hmakes, horder⟩ :=
        workInOrder_of_exec_takeOver (w := w.withLog log) (hcommand ▸ hwords) hpassed hpath h
      exact ⟨calls', hmakes, .of_ended hends horder⟩

/-- The work makes its calls in order. -/
theorem proceeds_of_exec_work {settings : Settings}
    (h : exec (work settings tokens) w = (result, w')) :
    ∃ calls, w.Makes calls w' ∧ Proceeds (WorkInOrder tokens w.bare) w.bare result calls := by
  unfold work at h
  rcases hplan : exec (makePlan settings tokens) w with ⟨stop | plan, w₁⟩
  · have hsaid := says_makePlan settings tokens w stop w₁ hplan
    rw [exec_bind_of_error hplan] at h
    cases h
    exact ⟨[], (keeps_makePlan settings tokens).makes hplan,
      .of_isSaid hsaid (.created (.passed (.done _)))⟩
  · have hmakes : w.Makes [] w₁ := (keeps_makePlan settings tokens).makes hplan
    have hbare : w₁.bare = w.bare := (keeps_makePlan settings tokens).bare.view_eq_of_exec hplan
    rw [exec_bind_of_ok hplan] at h
    rcases hcreate : exec (createBase plan) w₁ with ⟨stop | ⟨⟩, w₂⟩
    · obtain ⟨calls, hcalls, hcreates, -⟩ := creates_of_exec_createBase hcreate
      have hsaid := says_createBase plan w₁ stop w₂ hcreate
      rw [exec_bind_of_error hcreate] at h
      cases h
      exact ⟨calls, hmakes.trans hcalls, .of_isSaid hsaid (hbare ▸ .created hcreates)⟩
    · obtain ⟨calls, hcalls, -, hpassed⟩ := creates_of_exec_createBase hcreate
      rw [exec_bind_of_ok hcreate] at h
      obtain ⟨calls', hcalls', horder⟩ := proceeds_of_exec_proceed (fun word hword =>
        CommandLine.mem_tokens_of_mem_command (of_exec_makePlan hplan).1 hword) (hpassed rfl) h
      exact ⟨_, hmakes.trans (hcalls.trans hcalls'), hbare ▸ horder⟩

/-- A run that does not hand the command line over, for whatever reason, makes the calls of the
work, or none. -/
theorem proceeds_of_exec_run (h : exec (run tokens) w = (result, w')) :
    ∃ calls, w.Makes calls w' ∧ Proceeds (InOrder tokens w.bare) w.bare result calls := by
  rcases hsettings : Settings.read w.process.environment with v | settings
  · rw [exec_run_of_read_eq_error hsettings] at h
    cases h
    exact ⟨[], World.makes_of_trace_eq rfl, .of_ended (by simp) .nil⟩
  · rcases hrecipient : settings.recipient? with _ | delegate
    · rw [exec_run_of_recipient?_eq_none hsettings hrecipient] at h
      obtain ⟨calls, hmakes, horder⟩ := proceeds_of_exec_work h
      exact ⟨calls, hmakes, horder.mono .worked⟩
    · obtain ⟨log, hrun⟩ := exec_run_of_recipient?_eq_some tokens hsettings hrecipient
      rw [hrun] at h
      obtain ⟨hends, ⟨-, hmakes⟩ | ⟨answer, hmakes⟩⟩ := makes_of_exec_executeOrEnd h
      · exact ⟨[], hmakes, .of_ended hends .nil⟩
      · exact ⟨_, hmakes, .of_ended hends (.handedOver delegate answer)⟩

/-- **A run makes its calls in order,** whatever faults are planned. -/
theorem proceeds_exec_main (tokens : List Text) (w : World) :
    ∃ calls, w.Makes calls (exec (main tokens) w).2 ∧
      Proceeds (InOrder tokens w.bare) w.bare (exec (main tokens) w).1 calls := by
  rcases hquery : Query.ofTokens tokens with _ | query
  · rcases hrun : exec (run tokens) w with ⟨result, w₁⟩
    obtain ⟨calls, hmakes, hcalls⟩ := proceeds_of_exec_run hrun
    have htrace := trace_exec_main_of_work hquery w
    rw [hrun] at htrace
    have hsame : (exec (main tokens) w).1 = .error .unending ↔ result = .error .unending := by
      rw [main_of_no_query hquery]
      refine ⟨fun h => ?_, fun h => ?_⟩
      · have hwork := exec_of_exec_exitCode_error (Prod.ext h rfl)
        rw [hrun] at hwork
        exact congrArg Prod.fst hwork
      · rw [exec_exitCode_of_not_failed (h ▸ hrun) fun failure => by simp]
    exact ⟨calls, htrace.trans hmakes, fun hends => hcalls.ended (mt hsame.2 hends),
      fun hunending => hcalls.unending (hsame.1 hunending)⟩
  · have hanswer : Keeps (World.besides [.output, .errors]) [] (answer query) := keeps_answer query
    rw [main, hquery]
    refine ⟨[], hanswer.makes rfl, .of_ended (fun hunending => ?_) .nil⟩
    exact (says_answer query w _ _ (Prod.ext hunending rfl)).ne_unending rfl

end Launch

namespace Session

/-- **A run makes its calls in order,** in every session: whatever the tokens, the environment and
the tree are, and whatever faults are planned. Nothing comes behind a call that executes a program,
and nothing behind a directory that could not be created. A run comes to an end if the interruptions
of its reads cease. One that never ends still reads its record, and has not closed it. -/
theorem inOrder_trace_main (s : Session) (tokens : List Text) :
    (Fault.Ceases s.machine.faults (.read WholeFile.chunkSize) (.fail .interrupted) →
      (s.perform (Launch.main tokens)).1.result ≠ .error .unending) ∧
    ((s.perform (Launch.main tokens)).1.result ≠ .error .unending →
      InOrder tokens s.machine (s.perform (Launch.main tokens)).1.process.trace) ∧
    ((s.perform (Launch.main tokens)).1.result = .error .unending →
      StillReads s.machine (s.perform (Launch.main tokens)).1.process.trace) := by
  let start : World := { machine := s.machine, process := s.process }
  obtain ⟨calls, hmakes, horder⟩ := Launch.proceeds_exec_main tokens start
  have htrace : (s.perform (Launch.main tokens)).1.process.trace = calls := hmakes
  rw [htrace]
  exact ⟨Launch.exec_main_ne_unending (w := start) tokens,
    fun hends => (horder.ended hends).with_made s.machine.made,
    fun hunending => (horder.unending hunending).with_made s.machine.made⟩

/-- A session with a record, in which the read of this number is interrupted, or every read. -/
def interrupting (number : Option Nat) : Session where
  machine :=
    { tree := Tree.empty.plant (Location.ofPath (lit "/base/last_command").encode)
        (.file 0o644 (Record.encode [lit "true"]))
      workingDirectory := none, userId := 1000, accounts := [], umask := 0o022
      terminal := ⟨false, false, none⟩
      faults := [⟨.read, number, none, .fail .interrupted⟩], made := [] }
  environment := [("USER", lit "user")]
  logThreshold := Level.warning

/-- The tokens that ask for a report of the record. -/
def reportTokens : List Text := [lit "--output_base=/base", lit "--json"]

/-- A run whose first read is interrupted makes its calls in order. If every read is interrupted,
the run reads on for ever. -/
theorem inOrder_trace_main_interrupting :
    (Fault.Ceases (interrupting (some 1)).machine.faults (.read WholeFile.chunkSize)
        (.fail .interrupted) ∧
      InOrder reportTokens (interrupting (some 1)).machine
        ((interrupting (some 1)).perform (Launch.main reportTokens)).1.process.trace) ∧
    ((interrupting none).perform (Launch.main reportTokens)).1.result = .error .unending ∧
      StillReads (interrupting none).machine
        ((interrupting none).perform (Launch.main reportTokens)).1.process.trace := by
  have hceases : Fault.Ceases (interrupting (some 1)).machine.faults (.read WholeFile.chunkSize)
      (.fail .interrupted) := by decide
  have hunending : ((interrupting none).perform (Launch.main reportTokens)).1.result =
      .error .unending := by decide +kernel
  obtain ⟨hends, horder, -⟩ := inOrder_trace_main (interrupting (some 1)) reportTokens
  obtain ⟨-, -, hreads⟩ := inOrder_trace_main (interrupting none) reportTokens
  exact ⟨⟨hceases, horder (hends hceases)⟩, hunending, hreads hunending⟩

/-- The calls of some run are not in order: where every read is interrupted, the record is opened
and never closed. -/
theorem not_every_trace_inOrder :
    ¬∀ (s : Session) (tokens : List Text),
      InOrder tokens s.machine (s.perform (Launch.main tokens)).1.process.trace := by
  intro hclaim
  have hopened : (.openToRead (.text (lit "/base/last_command")), .ok) ∈
      ((interrupting none).perform (Launch.main reportTokens)).1.process.trace := by decide +kernel
  have hnot : ∀ call ∈ ((interrupting none).perform (Launch.main reportTokens)).1.process.trace,
      call.1.kind ≠ .close := by decide +kernel
  obtain ⟨closed, hmem⟩ := (hclaim (interrupting none) reportTokens).exists_close hopened
  exact hnot _ hmem rfl

end Session

end Launcher
