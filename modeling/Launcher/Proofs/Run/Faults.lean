import Launcher.Proofs.Machine.Effects
import Launcher.Proofs.Run.Faultless
import Launcher.Proofs.Text.Decoding

/-!
# Calls whatever faults are planned

A call on a path is refused before it is made, or it fails, or it has its effect on the machine. The
effect may be less than it was asked to be, if a fault is planned that makes such calls short. Each
statement lists all that can come of one call.

## Main definitions

* `Launcher.Machine.Allows` — the limits that the plan sets to a call.
* `Launcher.Action.IgnoresFaults` — the effect of a call does not depend on the plan.
* `Launcher.Action.RefusesDirectory` — why a directory cannot even be asked for.

## Main results

* `Launcher.Fault.strike?_of_lastNumber_lt` — what a plan does behind the last number that it asks
  for.
* `Launcher.Action.exec_call_cases` — what can come of a call.
* `Launcher.Action.exec_makeDirectory_cases` and its like — what can come of the calls themselves.
* `Launcher.Action.ignoresFaults_makeDirectory` and its like — the plan decides whether a call has
  its effect, and not which.
-/

namespace Launcher

/-- The fault that strikes a call is planned, and for calls of its kind. -/
theorem Fault.exists_of_strike? {plan : List Fault} {c : Call} {count : Nat} {strike : Strike}
    (h : Fault.strike? plan c count = some strike) :
    ∃ fault ∈ plan, fault.kind = c.kind ∧ fault.strike = strike := by
  obtain ⟨fault, hfind, hstrike⟩ := Option.map_eq_some_iff.1 h
  have hhits := List.find?_some hfind
  simp only [Fault.hits, Bool.and_eq_true, beq_iff_eq] at hhits
  exact ⟨fault, List.mem_of_find?_eq_some hfind, hhits.1.1, hstrike⟩

/-! ## Behind the last number -/

namespace Fault

variable {plan : List Fault} {fault : Fault} {c : Call} {i k : Nat}

/-- A fault hits the calls of its kind that it has a number and a path for, or all of them. -/
theorem hits_eq_true_iff :
    fault.hits c k = true ↔ fault.kind = c.kind ∧ (∀ n ∈ fault.nth, n = k) ∧
      ∀ path ∈ fault.path, some path = c.path? := by
  simp [hits, Option.all_eq_true, and_assoc]

/-- A fault can strike a call of this kind by its number if it strikes the one that has it, and not
the next one. -/
theorem filter_nth_eq_some_iff :
    fault.nth.filter (fault.hits c ·) = some k ↔
      fault.hits c k = true ∧ fault.hits c (k + 1) = false := by
  rw [Option.filter_eq_some_iff]
  constructor
  · rintro ⟨hnth, hhits⟩
    refine ⟨hhits, Bool.eq_false_iff.2 fun hnext => ?_⟩
    exact absurd ((hits_eq_true_iff.1 hnext).2.1 k hnth) (by omega)
  · rintro ⟨hhits, hnext⟩
    obtain ⟨hkind, hnumber, hpath⟩ := hits_eq_true_iff.1 hhits
    rcases hnth : fault.nth with _ | n
    · rw [hits_eq_true_iff.2 ⟨hkind, by simp [hnth], hpath⟩] at hnext
      cases hnext
    · obtain rfl := hnumber n hnth
      exact ⟨rfl, hhits⟩

/-- What hits a call behind the last number hits all calls of its kind. -/
theorem hits_of_hits (hmem : fault ∈ plan) (h : fault.hits c i = true)
    (hi : lastNumber plan c < i) (k : Nat) : fault.hits c k = true := by
  obtain ⟨hkind, hnumber, hpath⟩ := hits_eq_true_iff.1 h
  refine hits_eq_true_iff.2 ⟨hkind, fun n hnth => ?_, hpath⟩
  obtain rfl := hnumber n hnth
  have hasked : n ∈ plan.filterMap fun fault => fault.nth.filter (fault.hits c ·) :=
    List.mem_filterMap.2 ⟨fault, hmem, Option.filter_eq_some_iff.2 ⟨hnth, h⟩⟩
  exact absurd hi (Nat.not_lt.2 (List.le_max?_getD_of_mem hasked))

/-- **Behind the last number all calls are struck alike.** -/
theorem strike?_of_lastNumber_lt (hi : lastNumber plan c < i) (hk : lastNumber plan c < k) :
    strike? plan c i = strike? plan c k := by
  have hhits : ∀ fault ∈ plan, fault.hits c i = fault.hits c k := fun fault hmem =>
    Bool.eq_iff_iff.2 ⟨fun h => hits_of_hits hmem h hi k, fun h => hits_of_hits hmem h hk i⟩
  rw [strike?, strike?, ← List.head?_filter, ← List.head?_filter, List.filter_congr hhits]

end Fault

/-- A limit that the plan may set to what the call moves, or none. -/
def Machine.Allows (m : Machine) (c : Call) (limit : Option Nat) : Prop :=
  ∀ n ∈ limit, ∃ fault ∈ m.faults, fault.kind = c.kind ∧ fault.strike = .short n

/-- What the process becomes when it executes a program. -/
def World.image (w : World) (program : Text) (arguments : List Text) : Image where
  path := program
  arguments
  environment := w.process.environment
  output := w.process.output.flushed
  errors := w.process.errors.flushed

/-- The number of an error of a call is that of the failure. -/
theorem OsError.errno_of_eq_some_iff {e e' : Errno} {path : Option Path} :
    (OsError.of e path).errno = some (e'.number : Int) ↔ e = e' := by
  constructor
  · intro h
    have hnumber : (e.number : Int) = e'.number := Option.some.inj h
    exact congrArg Errno.mk (Int.ofNat.inj hnumber)
  · rintro rfl
    rfl

namespace Action

variable {α : Type} {path : Path} {w : World}

/-- **What can come of a call:** it fails, or it has its effect, within a limit that the plan
sets. -/
theorem exec_call_cases (c : Call) (answer : α → Answer)
    (effect : Option Nat → Machine → Except Errno (α × Machine)) (w : World) :
    (∃ e, exec (call c answer effect) w =
        (.ok (.error (.of e c.path?)), w.afterCall c (.error e))) ∨
      ∃ limit a after, w.machine.Allows c limit ∧
        effect limit (w.machine.counted c) = .ok (a, after) ∧
        exec (call c answer effect) w =
          (.ok (.ok a), { w.afterCall c (answer a) with machine := after }) := by
  rw [exec_call]
  rcases hrespond : (w.machine.counted c).respond c effect with e | ⟨a, after⟩
  · exact Or.inl ⟨e, rfl⟩
  · refine Or.inr ?_
    unfold Machine.respond at hrespond
    rcases hstrike : Fault.strike? (w.machine.counted c).faults c
      ((w.machine.counted c).made.count c.kind) with _ | e | n
    · rw [hstrike] at hrespond
      exact ⟨none, a, after, fun _ hn => by simp at hn, hrespond, rfl⟩
    · rw [hstrike] at hrespond
      cases hrespond
    · rw [hstrike] at hrespond
      refine ⟨some n, a, after, fun n' hn => ?_, hrespond, rfl⟩
      obtain rfl : n = n' := Option.some.inj hn
      exact Fault.exists_of_strike? hstrike

/-! ## Effects and the plan of faults -/

/-- The effect of a call does not depend on the faults that are planned. -/
def IgnoresFaults (effect : Option Nat → Machine → Except Errno (α × Machine)) : Prop :=
  ∀ limit m faults, effect limit { m with faults } =
    (effect limit m).map fun (a, after) => (a, { after with faults })

/-- An effect that does not depend on the planned faults does not change them. -/
theorem IgnoresFaults.faults_eq {effect : Option Nat → Machine → Except Errno (α × Machine)}
    (h : IgnoresFaults effect) {limit : Option Nat} {m after : Machine} {a : α}
    (heffect : effect limit m = .ok (a, after)) : after.faults = m.faults := by
  have hsame : effect limit m =
      (effect limit m).map fun (a, after) => (a, { after with faults := m.faults }) :=
    h limit m m.faults
  rw [heffect] at hsame
  have hafter : after = { after with faults := m.faults } := (Prod.mk.inj (Except.ok.inj hsame)).2
  rw [hafter]

/-- What the working directory is does not depend on the planned faults. -/
theorem ignoresFaults_workingDirectory :
    IgnoresFaults fun (_ : Option Nat) m =>
      match m.workingDirectory with
      | some directory => .ok (directory, m)
      | none => .error .noEntry := by
  intro _ m faults
  obtain ⟨_, workingDirectory, _, _, _, _, _, _⟩ := m
  rcases workingDirectory with _ | directory <;> rfl

/-- What making a directory does to the tree does not depend on the planned faults. -/
theorem ignoresFaults_makeDirectory (path : Bytes) (mode : Int) :
    IgnoresFaults fun (_ : Option Nat) m => (m.makeDirectory path mode).map ((), ·) := by
  intro _ m faults
  simp only []
  rw [Machine.makeDirectory_of_isUnnoticed ((Machine.isUnnoticed_faults faults).along path)]
  rcases m.makeDirectory path mode with e | after <;> rfl

/-- What unlinking does to the tree does not depend on the planned faults. -/
theorem ignoresFaults_unlink (path : Bytes) :
    IgnoresFaults fun (_ : Option Nat) m => (m.unlink path).map ((), ·) := by
  intro _ m faults
  simp only []
  rw [Machine.unlink_of_isUnnoticed ((Machine.isUnnoticed_faults faults).along path)]
  rcases m.unlink path with e | after <;> rfl

/-- What is opened to read does not depend on the planned faults. -/
theorem ignoresFaults_openToRead (path : Bytes) :
    IgnoresFaults fun (_ : Option Nat) m => (m.openToRead path).map (·, m) := by
  intro _ m faults
  simp only []
  rw [Machine.openToRead_of_isUnnoticed ((Machine.isUnnoticed_faults faults).along path)]
  rcases m.openToRead path with e | reader <;> rfl

/-- What is opened to write does not depend on the planned faults. -/
theorem ignoresFaults_openToWrite (path : Bytes) :
    IgnoresFaults fun (_ : Option Nat) m => m.openToWrite path :=
  fun _ m faults =>
    Machine.openToWrite_of_isUnnoticed ((Machine.isUnnoticed_faults faults).along path) m

/-- What a read gives, as far as it may go, does not depend on the planned faults. -/
theorem ignoresFaults_read (reader : Reader) (size : Nat) :
    IgnoresFaults fun limit m =>
      match reader with
      | .directory => .error .isDirectory
      | .file unread =>
          let n := min size (limit.getD size)
          .ok ((unread.take n, Reader.file (unread.drop n)), m) := by
  intro _ m faults
  rcases reader with _ | unread <;> rfl

/-- What a write stores, as far as it may go, does not depend on the planned faults. -/
theorem ignoresFaults_write (location : Location) (content : Bytes) :
    IgnoresFaults fun limit m =>
      let stored := content.take (limit.getD content.length)
      .ok (stored.length, m.store location stored) :=
  fun _ m faults => congrArg (fun after => Except.ok (_, after))
    (Machine.store_of_isUnnoticed ((Machine.isUnnoticed_faults faults).along []) m location _)

/-- A close does nothing that could depend on the planned faults. -/
theorem ignoresFaults_close :
    IgnoresFaults fun (_ : Option Nat) (m : Machine) => .ok ((), m) := fun _ _ _ => rfl

/-- Whether a program can be executed does not depend on the planned faults. -/
theorem ignoresFaults_execute (path : Bytes) :
    IgnoresFaults fun (_ : Option Nat) m => (m.execute path).map (·, m) := by
  intro _ m faults
  have hsame : Machine.execute { m with faults } path = m.execute path := rfl
  simp only [hsame]
  rcases m.execute path with e | ⟨⟩ <;> rfl

/-! ## The calls themselves -/

/-- A path is refused for a zero byte. -/
theorem exec_requireNoZero_cases (path : Path) (w : World) :
    (0 ∈ path.toBytes ∧
        exec (requireNoZero path) w = (.error (.failed (.invalid .zeroByte)), w)) ∨
      0 ∉ path.toBytes ∧ exec (requireNoZero path) w = (.ok ⟨⟩, w) := by
  unfold requireNoZero
  by_cases hzero : path.toBytes.contains 0 = true
  · rw [if_pos hzero]
    exact Or.inl ⟨by simpa using hzero, rfl⟩
  · rw [if_neg hzero]
    exact Or.inr ⟨by simpa using hzero, rfl⟩

/-- Why the system cannot even be asked for a directory: its path holds a zero byte, or its mode is
out of range. -/
inductive RefusesDirectory (path : Path) (mode : Int) : Failure → Prop
  | zeroByte (h : 0 ∈ path.toBytes) : RefusesDirectory path mode (.invalid .zeroByte)
  | outOfRange (hzero : 0 ∉ path.toBytes) (h : Numeral.fitsInt32 mode = false) :
      RefusesDirectory path mode .outOfRange

/-- A directory is created, or the call is refused or fails. -/
theorem exec_makeDirectory_cases (path : Path) (mode : Int) (w : World) :
    (∃ failure, RefusesDirectory path mode failure ∧
        exec (makeDirectory path mode) w = (.error (.failed failure), w)) ∨
      (∃ e, exec (makeDirectory path mode) w =
        (.ok (.error (.of e (some path))), w.afterCall (.makeDirectory path mode) (.error e))) ∨
      ∃ after, 0 ∉ path.toBytes ∧
        (w.machine.counted (.makeDirectory path mode)).makeDirectory path.toBytes mode = .ok after ∧
        exec (makeDirectory path mode) w = (.ok (.ok ⟨⟩),
          { w.afterCall (.makeDirectory path mode) .ok with machine := after }) := by
  unfold makeDirectory
  rcases exec_requireNoZero_cases path w with ⟨hzero, hstop⟩ | ⟨hzero, hpass⟩
  · exact Or.inl ⟨_, .zeroByte hzero, exec_bind_of_error hstop⟩
  · rw [exec_bind_of_ok hpass]
    by_cases hfits : (!Numeral.fitsInt32 mode) = true
    · rw [if_pos hfits]
      exact Or.inl ⟨_, .outOfRange hzero (by simpa using hfits), rfl⟩
    · rw [if_neg hfits]
      rcases exec_call_cases (.makeDirectory path mode) (fun _ => .ok) (fun _ m =>
        (m.makeDirectory path.toBytes mode).map ((), ·)) w
        with ⟨e, hexec⟩ | ⟨_, _, after, -, hmake, hexec⟩
      · exact Or.inr (Or.inl ⟨e, hexec⟩)
      · rcases hafter : (w.machine.counted (.makeDirectory path mode)).makeDirectory
            path.toBytes mode with e | after'
        · rw [hafter] at hmake
          cases hmake
        · rw [hafter] at hmake
          cases hmake
          exact Or.inr (Or.inr ⟨after, hzero, rfl, hexec⟩)

/-- A file is removed, or the call is refused or fails. -/
theorem exec_unlink_cases (path : Path) (w : World) :
    (∃ failure, exec (unlink path) w = (.error (.failed failure), w)) ∨
      0 ∉ path.toBytes ∧
        ((∃ e, exec (unlink path) w =
            (.ok (.error (.of e (some path))), w.afterCall (.unlink path) (.error e))) ∨
          ∃ after, (w.machine.counted (.unlink path)).unlink path.toBytes = .ok after ∧
            exec (unlink path) w =
              (.ok (.ok ⟨⟩), { w.afterCall (.unlink path) .ok with machine := after })) := by
  unfold unlink
  rcases exec_requireNoZero_cases path w with ⟨-, hstop⟩ | ⟨hzero, hpass⟩
  · exact Or.inl ⟨_, exec_bind_of_error hstop⟩
  · rw [exec_bind_of_ok hpass]
    refine Or.inr ⟨hzero, ?_⟩
    rcases exec_call_cases (.unlink path) (fun _ => .ok) (fun _ m =>
      (m.unlink path.toBytes).map ((), ·)) w with ⟨e, hexec⟩ | ⟨_, _, after, -, hunlink, hexec⟩
    · exact Or.inl ⟨e, hexec⟩
    · rcases hafter : (w.machine.counted (.unlink path)).unlink path.toBytes with e | after'
      · rw [hafter] at hunlink
        cases hunlink
      · rw [hafter] at hunlink
        cases hunlink
        exact Or.inr ⟨after, rfl, hexec⟩

/-- A file or a directory is opened for reading, or the call is refused or fails. -/
theorem exec_openToRead_cases (path : Path) (w : World) :
    (∃ failure, exec (openToRead path) w = (.error (.failed failure), w)) ∨
      (∃ e, exec (openToRead path) w =
        (.ok (.error (.of e (some path))), w.afterCall (.openToRead path) (.error e))) ∨
      ∃ reader, 0 ∉ path.toBytes ∧ w.machine.openToRead path.toBytes = .ok reader ∧
        exec (openToRead path) w = (.ok (.ok reader), w.afterCall (.openToRead path) .ok) := by
  unfold openToRead
  rcases exec_requireNoZero_cases path w with ⟨-, hstop⟩ | ⟨hzero, hpass⟩
  · exact Or.inl ⟨_, exec_bind_of_error hstop⟩
  · rw [exec_bind_of_ok hpass]
    rcases exec_call_cases (.openToRead path) (fun _ => .ok) (fun _ m =>
      (m.openToRead path.toBytes).map (·, m)) w
      with ⟨e, hexec⟩ | ⟨_, reader, after, -, hopen, hexec⟩
    · exact Or.inr (Or.inl ⟨e, hexec⟩)
    · rcases hreader : (w.machine.counted (.openToRead path)).openToRead path.toBytes
        with e | reader'
      · rw [hreader] at hopen
        cases hopen
      · rw [hreader] at hopen
        cases hopen
        exact Or.inr (Or.inr ⟨reader, hzero, hreader, hexec⟩)

/-- A file is opened for writing, or the call fails. -/
theorem exec_openToWrite_cases (hzero : 0 ∉ path.toBytes) (w : World) :
    (∃ e, exec (openToWrite path) w =
        (.ok (.error (.of e (some path))), w.afterCall (.openToWrite path) (.error e))) ∨
      ∃ location after,
        (w.machine.counted (.openToWrite path)).openToWrite path.toBytes = .ok (location, after) ∧
        exec (openToWrite path) w =
          (.ok (.ok location), { w.afterCall (.openToWrite path) .ok with machine := after }) := by
  unfold openToWrite
  rw [exec_bind_of_ok (exec_requireNoZero hzero w)]
  rcases exec_call_cases (.openToWrite path) (fun _ => .ok) (fun _ m =>
    m.openToWrite path.toBytes) w with ⟨e, hexec⟩ | ⟨_, location, after, -, hopen, hexec⟩
  · exact Or.inl ⟨e, hexec⟩
  · exact Or.inr ⟨location, after, hopen, hexec⟩

/-- A beginning of the content is written, within a limit that the plan sets, or the call fails. -/
theorem exec_write_cases (location : Location) (content : Bytes) (w : World) :
    (∃ e, exec (write location content) w =
        (.ok (.error (.of e none)), w.afterCall (.write content.length) (.error e))) ∨
      ∃ limit, w.machine.Allows (.write content.length) limit ∧
        let stored := content.take (limit.getD content.length)
        exec (write location content) w =
          (.ok (.ok stored.length),
            { w.afterCall (.write content.length) (.count stored.length) with
              machine := (w.machine.counted (.write content.length)).store location stored }) := by
  unfold write
  rcases exec_call_cases (.write content.length) .count (fun limit m =>
      let stored := content.take (limit.getD content.length)
      .ok (stored.length, m.store location stored)) w
    with ⟨e, hexec⟩ | ⟨limit, _, after, hallows, hwrite, hexec⟩
  · exact Or.inl ⟨e, hexec⟩
  · cases hwrite
    exact Or.inr ⟨limit, hallows, hexec⟩

/-- Closing leaves the machine as it is, whether it fails or not. -/
theorem exec_close_cases (w : World) :
    (∃ e, exec close w = (.ok (.error (.of e none)), w.afterCall .close (.error e))) ∨
      exec close w = (.ok (.ok ⟨⟩), w.afterCall .close .ok) := by
  unfold close
  rcases exec_call_cases .close (fun _ : Unit => .ok) (fun _ m => .ok ((), m)) w
    with ⟨e, hexec⟩ | ⟨_, _, after, -, hclose, hexec⟩
  · exact Or.inl ⟨e, hexec⟩
  · cases hclose
    exact Or.inr hexec

/-! ### Executing -/

/-- A program and arguments that the system can be given: no zero bytes, and a name to begin
with. -/
structure CanBeGiven (program : Text) (arguments : List Text) : Prop where
  program_zero : Symbol.char '\x00' ∉ program
  zero : ∀ argument ∈ arguments, Symbol.char '\x00' ∉ argument
  ne_nil : arguments ≠ []
  head_ne_nil : arguments.head? ≠ some []

variable {program : Text} {arguments : List Text}

/-- The process becomes the program if the machine lets it. -/
theorem exec_execute (h : CanBeGiven program arguments) (w : World) :
    exec (execute program arguments) w =
      match (w.machine.counted (.execute program arguments)).respond (.execute program arguments)
        fun _ m => (m.execute program.encode).map (·, m) with
      | .error e => (.ok (.of e (some (.text program))),
          w.afterCall (.execute program arguments) (.error e))
      | .ok (_, after) => (.error (.replaced (w.image program arguments)),
          { w.afterCall (.execute program arguments) .ok with machine := after }) := by
  have hzero : 0 ∉ (Path.text program).toBytes :=
    fun hmem => h.program_zero ((Text.zero_mem_encode_iff _).1 hmem)
  have hany : arguments.any (·.contains (.char '\x00')) = false := by
    simpa using h.zero
  have hempty : arguments.isEmpty = false := by simpa using h.ne_nil
  have hhead : (arguments.head? == some []) = false := by simpa using h.head_ne_nil
  unfold execute
  rw [exec_bind_of_ok (exec_requireNoZero hzero w)]
  simp only [hempty, hany, hhead, Bool.false_eq_true, if_false]
  rw [exec_bind, exec_call]
  rcases (w.machine.counted (.execute program arguments)).respond (.execute program arguments)
    fun _ m => (m.execute program.encode).map (·, m) with e | ⟨⟨⟩, after⟩
  · rfl
  · rfl

/-- What cannot be given to the system is refused. -/
theorem exec_execute_of_not_canBeGiven (h : ¬CanBeGiven program arguments) (w : World) :
    ∃ failure, exec (execute program arguments) w = (.error (.failed failure), w) := by
  unfold execute
  rcases exec_requireNoZero_cases (.text program) w with ⟨-, hstop⟩ | ⟨hzero, hpass⟩
  · exact ⟨_, exec_bind_of_error hstop⟩
  · rw [exec_bind_of_ok hpass]
    by_cases hempty : arguments.isEmpty = true
    · exact ⟨_, by rw [if_pos hempty]; rfl⟩
    rw [if_neg hempty]
    by_cases hany : arguments.any (·.contains (.char '\x00')) = true
    · exact ⟨_, by rw [if_pos hany]; rfl⟩
    rw [if_neg hany]
    by_cases hhead : (arguments.head? == some []) = true
    · exact ⟨_, by rw [if_pos hhead]; rfl⟩
    refine absurd ⟨fun hmem => hzero ((Text.zero_mem_encode_iff _).2 hmem), ?_, ?_, ?_⟩ h
    · simpa using hany
    · simpa using hempty
    · simpa using hhead

/-- The process becomes the program, or the call fails. -/
theorem exec_execute_cases (h : CanBeGiven program arguments) (w : World) :
    (∃ e, exec (execute program arguments) w =
        (.ok (.of e (some (.text program))), w.afterCall (.execute program arguments) (.error e))) ∨
      exec (execute program arguments) w =
        (.error (.replaced (w.image program arguments)),
          w.afterCall (.execute program arguments) .ok) := by
  rw [exec_execute h]
  rcases hrespond : (w.machine.counted (.execute program arguments)).respond
    (.execute program arguments) fun _ m => (m.execute program.encode).map (·, m)
    with e | ⟨⟨⟩, after⟩
  · exact Or.inl ⟨e, rfl⟩
  · obtain ⟨_, heffect⟩ := Machine.exists_effect_of_respond hrespond
    rcases hvalue : (w.machine.counted (.execute program arguments)).execute program.encode
      with e | ⟨⟩
    · rw [hvalue] at heffect
      cases heffect
    · rw [hvalue] at heffect
      cases heffect
      exact Or.inr rfl

end Action

end Launcher
