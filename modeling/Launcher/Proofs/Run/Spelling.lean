import Mathlib.Data.List.Forall2
import Launcher.Proofs.Machine.Spelling
import Launcher.Proofs.Run.Faults

/-!
# Runs on a path and on its bytes

The system sees bytes, however a path is spelled. A run on the bytes of a path mirrors the run on
the path: it makes the same calls with the bytes of their paths, and they give the same answers.
Faults that are planned for paths ask for a spelling, so the plans of the two runs have to mirror
each other, too: fault by fault they strike the corresponding calls. What the log says shows how a
path is spelled, and is left out.

## Main definitions

* `Launcher.Path.inBytes`, `Call.inBytes` and `OsError.inBytes` — the same with bytes for paths.
* `Launcher.Fault.Mirrors` — faults that strike the corresponding calls on a path and on its bytes.
* `Launcher.World.Mirrors` — the world of a run on a path, and that of a run on its bytes.
* `Launcher.Action.Mirrors` — an action on a path, and the same action on its bytes.

## Main results

* `Launcher.Fault.mirrors_inBytes` — every fault is mirrored by some other one.
* `Launcher.Action.Mirrors.bind` — from parts to the whole.
* `Launcher.Action.mirrors_call` — a call with the bytes of its path mirrors the call.
-/

namespace Launcher

/-! ## Bytes for paths -/

namespace Path

/-- The path, spelled in bytes. -/
def inBytes (path : Path) : Path := .bytes path.toBytes

/-- A path spelled in bytes has the same bytes. -/
@[simp] theorem toBytes_inBytes (path : Path) : path.inBytes.toBytes = path.toBytes := rfl

/-- The directories on the way to the bytes of a path are the bytes of those on the way to it. -/
theorem chain_inBytes (path : Path) : path.inBytes.chain = path.chain.map inBytes := by
  show (beginnings slashByte path.toBytes).map bytes = path.chain.map inBytes
  rw [← map_toBytes_chain, List.map_map]
  rfl

/-- A path is the last of those that lead to it. -/
theorem mem_chain_self (path : Path) : path ∈ path.chain := by
  cases path with
  | text t =>
    obtain ⟨shorter, hshorter⟩ := exists_beginnings_eq_append slash t
    exact List.mem_map.2 ⟨t, by simp [hshorter], rfl⟩
  | bytes b =>
    obtain ⟨shorter, hshorter⟩ := exists_beginnings_eq_append slashByte b
    exact List.mem_map.2 ⟨b, by simp [hshorter], rfl⟩

/-- Directories on the way to a path are told apart by their bytes. -/
theorem eq_of_inBytes_eq {path first second : Path} (hfirst : first ∈ path.chain)
    (hsecond : second ∈ path.chain) (h : first.inBytes = second.inBytes) : first = second := by
  cases path with
  | text t =>
    obtain ⟨p, hp, rfl⟩ := List.mem_map.1 hfirst
    obtain ⟨q, hq, rfl⟩ := List.mem_map.1 hsecond
    obtain ⟨-, later, hlater, -⟩ := exists_append_of_mem_beginnings hp
    obtain ⟨-, later', hlater', -⟩ := exists_append_of_mem_beginnings hq
    rw [Text.eq_of_encode_eq ⟨later, hlater.symm⟩ ⟨later', hlater'.symm⟩ (Path.bytes.inj h)]
  | bytes b =>
    obtain ⟨p, -, rfl⟩ := List.mem_map.1 hfirst
    obtain ⟨q, -, rfl⟩ := List.mem_map.1 hsecond
    exact h

end Path

/-- The detail, with a text spelled in bytes. -/
def Detail.inBytes : Detail → Detail
  | text t => bytes t.encode
  | detail => detail

namespace OsError

/-- The error, with its places spelled in bytes. -/
def inBytes : OsError → OsError
  | call errno text places => call errno text (places.map Detail.inBytes)
  | note text => note text

/-- The number of an error does not depend on how its places are spelled. -/
@[simp] theorem errno_inBytes (e : OsError) : e.inBytes.errno = e.errno := by
  cases e <;> rfl

/-- Spelling the path of an error in bytes keeps its number. -/
theorem inBytes_of (e : Errno) (path : Option Path) :
    (OsError.of e path).inBytes = .of e (path.map Path.inBytes) := by
  rcases path with _ | t | b <;> rfl

end OsError

namespace Call

/-- The call with the bytes of its path. A program is executed by a text. -/
def inBytes : Call → Call
  | makeDirectory path mode => makeDirectory path.inBytes mode
  | unlink path => unlink path.inBytes
  | openToRead path => openToRead path.inBytes
  | openToWrite path => openToWrite path.inBytes
  | workingDirectory => workingDirectory
  | read size => read size
  | write length => write length
  | close => close
  | execute path arguments => execute path arguments

/-- The call is one that an operation on the path may make: it executes no program, and if it is
given a path, then that of a directory on the way, or the path itself. -/
def Concerns (path : Path) (c : Call) : Prop :=
  c.kind ≠ .execute ∧ ∀ named ∈ c.path?, named ∈ path.chain

/-- Spelling the path of a call in bytes keeps its kind. -/
@[simp] theorem kind_inBytes (c : Call) : c.inBytes.kind = c.kind := by
  cases c <;> rfl

/-- A call leaves a trace or none, however its path is spelled. -/
@[simp] theorem isTraced_inBytes (c : Call) : c.inBytes.isTraced = c.isTraced := by
  cases c <;> rfl

/-- The path of a call that concerns the path is spelled in bytes with it. -/
theorem Concerns.path?_inBytes {path : Path} {c : Call} (h : c.Concerns path) :
    c.inBytes.path? = c.path?.map Path.inBytes := by
  cases c with
  | execute => exact absurd rfl h.1
  | _ => rfl

/-- A call on the way to the path concerns it, unless it executes a program. -/
theorem concerns_of_path?_eq_some {path named : Path} {c : Call} (hkind : c.kind ≠ .execute)
    (hpath : c.path? = some named) (h : named ∈ path.chain) : c.Concerns path := by
  refine ⟨hkind, fun called hcalled => ?_⟩
  rw [hpath] at hcalled
  exact Option.some.inj hcalled ▸ h

/-- A call without a path concerns every path, and is its own mirror image. -/
theorem concerns_of_path?_eq_none {c : Call} (h : c.path? = none) (path : Path) :
    c.Concerns path ∧ c.inBytes = c := by
  cases c with
  | workingDirectory | read | write | close => exact ⟨⟨by simp [kind], by simp [path?]⟩, rfl⟩
  | _ => cases h

end Call

/-! ## Plans of faults -/

namespace Fault

/-- What one fault does to a call that concerns the path, the other one does to the call with the
bytes of its path. -/
structure Mirrors (path : Path) (fault fault' : Fault) : Prop where
  strike_eq : fault'.strike = fault.strike
  hits_eq : ∀ c count, c.Concerns path → fault'.hits c.inBytes count = fault.hits c count

variable {path : Path}

/-- A fault that asks for no path is its own mirror image. -/
theorem mirrors_self {fault : Fault} (h : fault.path = none) : Mirrors path fault fault :=
  ⟨rfl, fun c count _ => by simp [hits, h]⟩

/-- The fault that strikes the calls with the bytes of those paths on the way to `path` that the
fault asks for. If it asks for no such path, it strikes no call with bytes. -/
def inBytes (path : Path) (fault : Fault) : Fault :=
  { fault with
    path := fault.path.map fun named => if named ∈ path.chain then named.inBytes else .text [] }

/-- **Every fault is mirrored** by one that asks for bytes. -/
theorem mirrors_inBytes (path : Path) (fault : Fault) :
    Mirrors path fault (fault.inBytes path) := by
  refine ⟨rfl, fun c count hconcerns => ?_⟩
  have hpath : (fault.inBytes path).path.all (some · == c.inBytes.path?) =
      fault.path.all (some · == c.path?) := by
    unfold inBytes
    rw [hconcerns.path?_inBytes]
    rcases fault.path with _ | named
    · rfl
    rcases hcalled : c.path? with _ | called
    · rfl
    · have hmem := hconcerns.2 called hcalled
      rw [Bool.eq_iff_iff]
      by_cases hnamed : named ∈ path.chain
      · simp only [Option.map_some, Option.all_some, beq_iff_eq, Option.some.injEq, if_pos hnamed]
        exact ⟨Path.eq_of_inBytes_eq hnamed hmem, congrArg Path.inBytes⟩
      · have hne : named ≠ called := fun heq => hnamed (heq ▸ hmem)
        simp [if_neg hnamed, hne, Path.inBytes]
  unfold hits
  rw [hpath, Call.kind_inBytes]
  rfl

/-- Plans that mirror each other do the same to corresponding calls. -/
theorem strike?_of_mirrors {plan plan' : List Fault} (h : List.Forall₂ (Mirrors path) plan plan')
    {c : Call} (hconcerns : c.Concerns path) (count : Nat) :
    strike? plan' c.inBytes count = strike? plan c count := by
  unfold strike?
  induction h with
  | nil => rfl
  | cons hfault _ ih =>
    rw [List.find?_cons, List.find?_cons, hfault.hits_eq c count hconcerns]
    split
    · rw [Option.map_some, Option.map_some, hfault.strike_eq]
    · exact ih

/-- Plans that mirror each other ask for the same last number. -/
theorem lastNumber_of_mirrors {plan plan' : List Fault} (h : List.Forall₂ (Mirrors path) plan plan')
    {c : Call} (hconcerns : c.Concerns path) :
    lastNumber plan' c.inBytes = lastNumber plan c := by
  have hnumbers : (plan'.filterMap fun fault => fault.nth.filter (fault.hits c.inBytes ·)) =
      plan.filterMap fun fault => fault.nth.filter (fault.hits c ·) := by
    induction h with
    | nil => rfl
    | @cons fault fault' _ _ hfault _ ih =>
      have hsame : fault'.nth.filter (fault'.hits c.inBytes ·) =
          fault.nth.filter (fault.hits c ·) := by
        refine Option.ext fun n => ?_
        rw [filter_nth_eq_some_iff, filter_nth_eq_some_iff, hfault.hits_eq c n hconcerns,
          hfault.hits_eq c (n + 1) hconcerns]
      rw [List.filterMap_cons, List.filterMap_cons, hsame, ih]
  rw [lastNumber, lastNumber, hnumbers]

end Fault

/-! ## Worlds and actions -/

/-- The second world is that of a run on the bytes of the path where the first one is that of a run
on the path: they differ in the plans of faults, in the spelling of the paths of the calls so far,
and in what the log says. -/
structure World.Mirrors (path : Path) (w w' : World) : Prop where
  machine_eq : w'.machine = { w.machine with faults := w'.machine.faults }
  faults : List.Forall₂ (Fault.Mirrors path) w.machine.faults w'.machine.faults
  process_eq : w'.process =
    { w.process with
      log := w'.process.log
      trace := w.process.trace.map fun (c, answer) => (c.inBytes, answer) }
  levels_eq : w'.process.log.map LogRecord.level = w.process.log.map LogRecord.level

namespace World.Mirrors

variable {path : Path} {w w' : World}

/-- In both worlds the same paths lead to directories. -/
theorem isDirectory_eq (h : w.Mirrors path w') (named : Path) :
    w'.machine.isDirectory named.inBytes = w.machine.isDirectory named := by
  rw [h.machine_eq]
  rfl

/-- Corresponding calls are counted alike. -/
theorem counted_eq (h : w.Mirrors path w') (c : Call) :
    w'.machine.counted c.inBytes = { w.machine.counted c with faults := w'.machine.faults } := by
  unfold Machine.counted
  rw [Call.kind_inBytes, h.machine_eq]

/-- Worlds mirror each other after corresponding calls with the same answer that have changed the
machines in the same way. -/
theorem of_call (h : w.Mirrors path w') (c : Call) (answer : Answer) {after : Machine}
    (hfaults : after.faults = w.machine.faults) :
    World.Mirrors path { machine := after, process := w.process.recorded c answer }
      { machine := { after with faults := w'.machine.faults },
        process := w'.process.recorded c.inBytes answer } where
  machine_eq := rfl
  faults := by
    rw [hfaults]
    exact h.faults
  process_eq := by
    unfold Process.recorded
    rw [h.process_eq, Call.isTraced_inBytes]
    split
    · simp
    · rfl
  levels_eq := by
    have hlog : ∀ (p : Process) (c : Call), (p.recorded c answer).log = p.log := fun p c => by
      unfold Process.recorded
      split <;> rfl
    rw [hlog, hlog]
    exact h.levels_eq

end World.Mirrors

namespace Action

variable {α β γ δ : Type} {path : Path} {f : α → β} {g : γ → δ}

/-- The second action is on the bytes of the path what the first one is on the path: in worlds that
mirror each other they come to the same end, up to `f`, and leave worlds that mirror each other. -/
def Mirrors (path : Path) (f : α → β) (first : Action α) (second : Action β) : Prop :=
  ∀ w w', w.Mirrors path w' → (exec second w').1 = (exec first w).1.map f ∧
    (exec first w).2.Mirrors path (exec second w').2

namespace Mirrors

/-- Values that mirror each other come of themselves. -/
theorem pure (a : α) : Mirrors path f (Pure.pure a) (Pure.pure (f a)) := fun _ _ h => ⟨rfl, h⟩

/-- A stop is the same in both runs. -/
theorem throw (stop : Stop) :
    Mirrors path f (MonadExcept.throw stop) (MonadExcept.throw stop) := fun _ _ h => ⟨rfl, h⟩

/-- A failure is the same in both runs. -/
theorem fail (failure : Failure) :
    Mirrors path f (Action.fail failure) (Action.fail failure) := throw (.failed failure)

/-- **Actions whose parts mirror each other do so.** -/
theorem bind {first : Action α} {second : Action β} {next : α → Action γ} {next' : β → Action δ}
    (h : Mirrors path f first second) (hnext : ∀ a, Mirrors path g (next a) (next' (f a))) :
    Mirrors path g (first >>= next) (second >>= next') := by
  intro w w' hw
  obtain ⟨hresult, hworld⟩ := h w w' hw
  rcases hfirst : exec first w with ⟨stop | a, w₁⟩
  · rcases hsecond : exec second w' with ⟨result, w₁'⟩
    rw [hfirst, hsecond] at hresult hworld
    obtain rfl : result = .error stop := hresult
    rw [exec_bind_of_error hfirst, exec_bind_of_error hsecond]
    exact ⟨rfl, hworld⟩
  · rcases hsecond : exec second w' with ⟨result, w₁'⟩
    rw [hfirst, hsecond] at hresult hworld
    obtain rfl : result = .ok (f a) := hresult
    rw [exec_bind_of_ok hfirst, exec_bind_of_ok hsecond]
    exact hnext a w₁ w₁' hworld

/-- Actions that look at the world may be about what is different in worlds that mirror each other,
as long as they mirror each other in the end. -/
theorem get_bind {next : World → Action γ} {next' : World → Action δ}
    (h : ∀ w w', w.Mirrors path w' → Mirrors path g (next w) (next' w')) :
    Mirrors path g (MonadState.get >>= next) (MonadState.get >>= next') := by
  intro w w' hw
  rw [exec_bind_of_ok (exec_get w), exec_bind_of_ok (exec_get w')]
  exact h w w' hw w w' hw

/-- A choice is mirrored if both its branches are. -/
theorem ite {c : Prop} [Decidable c] {first first' : Action α} {second second' : Action β}
    (h : Mirrors path f first second) (h' : Mirrors path f first' second') :
    Mirrors path f (if c then first else first') (if c then second else second') := by
  split
  · exact h
  · exact h'

/-- A refusal in front of actions that mirror each other is the same for both. -/
theorem unlessRefused {c : Bool} {failure : Failure} {first : Action α} {second : Action β}
    (h : Mirrors path f first second) :
    Mirrors path f (do
      if c then Action.fail failure
      first) (do
      if c then Action.fail failure
      second) :=
  ite (bind (f := id) (fail failure) fun _ => h) h

end Mirrors

/-- What the log says is left out. -/
theorem mirrors_log (level : Int) (message message' : Text) :
    Mirrors path id (log level message) (log level message') := by
  intro w w' h
  have hthreshold : w'.process.logThreshold = w.process.logThreshold := by rw [h.process_eq]
  have hprocess : ∀ log log' : List LogRecord, { w'.process with log := log' } =
      { { w.process with log } with
        log := log'
        trace := w.process.trace.map fun (c, answer) => (c.inBytes, answer) } := fun log log' => by
    rw [h.process_eq]
  rw [exec_log, exec_log, hthreshold]
  refine ⟨rfl, h.machine_eq, h.faults, hprocess _ _, ?_⟩
  show (ite _ _ _ : List LogRecord).map _ = (ite _ _ _ : List LogRecord).map _
  split
  · rw [List.map_append, List.map_append, h.levels_eq]
    rfl
  · exact h.levels_eq

/-! ## Calls -/

section Calls

variable {c : Call} {answer : α → Answer}
  {effect : Option Nat → Machine → Except Errno (α × Machine)}

/-- What the machine responds does not depend on the spelling of paths. -/
theorem respond_eq_of_mirrors (hconcerns : c.Concerns path) (heffect : IgnoresFaults effect)
    {w w' : World} (h : w.Mirrors path w') :
    (w'.machine.counted c.inBytes).respond c.inBytes effect =
      ((w.machine.counted c).respond c effect).map fun (a, after) =>
        (a, { after with faults := w'.machine.faults }) := by
  have hmachine := h.counted_eq c
  have hmade : (w'.machine.counted c.inBytes).made = (w.machine.counted c).made := by
    rw [hmachine]
  have hstrike : Fault.strike? (w'.machine.counted c.inBytes).faults c.inBytes
        ((w'.machine.counted c.inBytes).made.count c.inBytes.kind) =
      Fault.strike? (w.machine.counted c).faults c ((w.machine.counted c).made.count c.kind) := by
    rw [hmade, Call.kind_inBytes]
    exact Fault.strike?_of_mirrors h.faults hconcerns _
  have heffective : ∀ limit, effect limit (w'.machine.counted c.inBytes) =
      (effect limit (w.machine.counted c)).map fun (a, after) =>
        (a, { after with faults := w'.machine.faults }) := by
    intro limit
    rw [hmachine]
    exact heffect limit _ _
  unfold Machine.respond
  rw [hstrike]
  rcases Fault.strike? (w.machine.counted c).faults c
    ((w.machine.counted c).made.count c.kind) with _ | e | limit
  · exact heffective none
  · rfl
  · exact heffective (some limit)

/-- **A call with the bytes of its path mirrors the call**: it has the same effect and the same
answer, and its error names the bytes. -/
theorem mirrors_call (hconcerns : c.Concerns path) (heffect : IgnoresFaults effect) :
    Mirrors path (Except.mapError OsError.inBytes) (call c answer effect)
      (call c.inBytes answer effect) := by
  intro w w' h
  rw [exec_call, exec_call, respond_eq_of_mirrors hconcerns heffect h]
  rcases hrespond : (w.machine.counted c).respond c effect with e | ⟨a, after⟩
  · refine ⟨?_, ?_⟩
    · show Except.ok (Except.error (OsError.of e c.inBytes.path?)) =
        Except.ok (Except.error (OsError.of e c.path?).inBytes)
      rw [hconcerns.path?_inBytes, OsError.inBytes_of]
    · have hcounted : (w.machine.counted c).faults = w.machine.faults := rfl
      have hmirrors := h.of_call c (.error e) hcounted
      rw [← h.counted_eq c] at hmirrors
      exact hmirrors
  · obtain ⟨limit, heffective⟩ := Machine.exists_effect_of_respond hrespond
    have hfaults : after.faults = (w.machine.counted c).faults := heffect.faults_eq heffective
    exact ⟨rfl, h.of_call c (answer a) hfaults⟩

/-- A call without a path mirrors itself, with its error. -/
theorem mirrors_call_of_path?_eq_none (hpath : c.path? = none) (heffect : IgnoresFaults effect) :
    Mirrors path id (call c answer effect) (call c answer effect) := by
  obtain ⟨hconcerns, hself⟩ := Call.concerns_of_path?_eq_none hpath path
  intro w w' h
  have hmirrors : Mirrors path _ (call c answer effect) _ := mirrors_call hconcerns heffect
  obtain ⟨hresult, hworld⟩ := hmirrors w w' h
  rw [hself] at hresult hworld
  refine ⟨hresult.trans ?_, hworld⟩
  rw [exec_call]
  rcases (w.machine.counted c).respond c effect with e | ⟨a, after⟩
  · rw [hpath]
    rfl
  · rfl

end Calls

/-! ### The calls themselves -/

variable {named : Path}

/-- A path and its bytes are refused alike. -/
theorem mirrors_requireNoZero (named : Path) :
    Mirrors path id (requireNoZero named) (requireNoZero named.inBytes) :=
  Mirrors.ite (Mirrors.fail _) (Mirrors.pure ())

/-- The working directory is told alike in both runs. -/
theorem mirrors_workingDirectory? : Mirrors path id workingDirectory? workingDirectory? := by
  exact mirrors_call_of_path?_eq_none rfl ignoresFaults_workingDirectory

/-- A directory is made, or not, alike in both runs. -/
theorem mirrors_makeDirectory (h : named ∈ path.chain) (mode : Int) :
    Mirrors path (Except.mapError OsError.inBytes) (makeDirectory named mode)
      (makeDirectory named.inBytes mode) := by
  refine Mirrors.bind (mirrors_requireNoZero named) fun _ => Mirrors.unlessRefused ?_
  exact mirrors_call (Call.concerns_of_path?_eq_some nofun rfl h)
    (ignoresFaults_makeDirectory _ mode)

/-- A path is unlinked, or not, alike in both runs. -/
theorem mirrors_unlink (h : named ∈ path.chain) :
    Mirrors path (Except.mapError OsError.inBytes) (unlink named) (unlink named.inBytes) := by
  refine Mirrors.bind (mirrors_requireNoZero named) fun _ => ?_
  exact mirrors_call (Call.concerns_of_path?_eq_some nofun rfl h) (ignoresFaults_unlink _)

/-- A file is opened to read, or not, alike in both runs. -/
theorem mirrors_openToRead (h : named ∈ path.chain) :
    Mirrors path (Except.mapError OsError.inBytes) (openToRead named)
      (openToRead named.inBytes) := by
  refine Mirrors.bind (mirrors_requireNoZero named) fun _ => ?_
  exact mirrors_call (Call.concerns_of_path?_eq_some nofun rfl h) (ignoresFaults_openToRead _)

/-- A file is opened to write, or not, alike in both runs. -/
theorem mirrors_openToWrite (h : named ∈ path.chain) :
    Mirrors path (Except.mapError OsError.inBytes) (openToWrite named)
      (openToWrite named.inBytes) := by
  refine Mirrors.bind (mirrors_requireNoZero named) fun _ => ?_
  exact mirrors_call (Call.concerns_of_path?_eq_some nofun rfl h) (ignoresFaults_openToWrite _)

/-- A read gives the same bytes in both runs. -/
theorem mirrors_read (reader : Reader) (size : Nat) :
    Mirrors path id (read reader size) (read reader size) := by
  exact mirrors_call_of_path?_eq_none rfl (ignoresFaults_read reader size)

/-- A write stores the same bytes in both runs. -/
theorem mirrors_write (location : Location) (content : Bytes) :
    Mirrors path (Except.mapError OsError.inBytes) (write location content)
      (write location content) := by
  exact mirrors_call (Call.concerns_of_path?_eq_none rfl path).1
    (ignoresFaults_write location content)

/-- A close is answered alike in both runs. -/
theorem mirrors_close : Mirrors path id close close :=
  mirrors_call_of_path?_eq_none rfl ignoresFaults_close

/-- A close has no path to spell, so its error is the same in bytes. -/
theorem mirrors_close_inBytes : Mirrors path (Except.mapError OsError.inBytes) close close :=
  mirrors_call (Call.concerns_of_path?_eq_none rfl path).1 ignoresFaults_close

end Action

end Launcher
