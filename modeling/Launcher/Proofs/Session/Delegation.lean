import Launcher.Proofs.Launch.Order
import Launcher.Proofs.Session.Likeness

/-!
# Handing a command line over

A launch that is set to do so hands its command line over to a delegate, and does nothing else. The
delegate may be the launcher itself. It is then told by the environment that the command line has
been handed over, and does what a launch without a delegate would have done.

## Main definitions

* `Launcher.Session.HandsOver` — a session in which a command line is handed over.
* `Launcher.Session.HandOver` — what comes of that.
* `Launcher.Session.HandsOff` — a run that makes no call but one that executes a program.
* `Launcher.Session.Later` — a run in a process that another run has become.

## Main results

* `Launcher.Session.hands_over_once` — the hand-over, what comes of it, and that there is only one.
-/

namespace Launcher

open Launcher.Action Launch

/-- The variables that are about the delegate. -/
def Launch.delegation : List String := [Settings.delegateVariable, Settings.delegatedVariable]

namespace Session

variable {s s' : Session} {tokens : List Text} {delegate : Text}

/-! ## Handing over -/

/-- In the session the command line is handed over to the delegate: settings can be read, a delegate
is set, the command line is not marked as handed over, it asks no question, and nothing in it has a
zero byte. -/
structure HandsOver (s : Session) (tokens : List Text) (delegate : Text) : Prop where
  settings : ∃ settings, Settings.read s.environment = .ok settings
  given : Settings.given? s.environment Settings.delegateVariable = some delegate
  unmarked : Settings.given? s.environment Settings.delegatedVariable = none
  query : Query.ofTokens tokens = none
  zero : ∀ text ∈ delegate :: tokens, Symbol.char '\x00' ∉ text

/-- The run makes no call but one that executes a program. -/
def HandsOff (s : Session) (tokens : List Text) : Prop :=
  ∃ program arguments answer,
    (s.perform (Launch.main tokens)).1.process.trace = [(.execute program arguments, answer)]

/-- The environment of a command line that has been handed over. -/
def handedOver (environment : Environment) : Environment :=
  environment.set Settings.delegatedVariable (lit "1")

/-- What comes of the hand-over: the delegate takes over, or the launch ends for its environment, if
the error has a number of the system. -/
structure HandOver (s : Session) (tokens : List Text) (delegate : Text)
    (first : Observation Int × Session) : Prop where
  tree_eq : first.2.machine.tree = s.machine.tree
  environment_eq : first.1.process.environment = handedOver s.environment
  ends : (∃ e, first.1.process.trace = [(.execute delegate (delegate :: tokens), .error e)] ∧
      (Numeral.fitsInt32 e.number = true → first.1.result = .ok ExitCode.environment.number)) ∨
    first.1.process.trace = [(.execute delegate (delegate :: tokens), .ok)] ∧
      first.1.result = .error (.replaced {
        path := delegate, arguments := delegate :: tokens, environment := handedOver s.environment
        output := [], errors := [] })

/-- The settings of a session in which the command line is handed over. -/
theorem HandsOver.recipient? (h : HandsOver s tokens delegate) :
    ∃ settings, Settings.read s.environment = .ok settings ∧
      settings.recipient? = some delegate := by
  obtain ⟨settings, hread⟩ := h.settings
  obtain ⟨-, -, -, hdelegate, hdelegated⟩ := Settings.read_eq_ok.1 hread
  refine ⟨settings, hread, ?_⟩
  rw [Settings.recipient?, hdelegated, h.unmarked, hdelegate, h.given]
  rfl

/-- What is handed over can be given to the system. -/
theorem HandsOver.canBeGiven (h : HandsOver s tokens delegate) :
    CanBeGiven delegate (delegate :: tokens) where
  program_zero := h.zero delegate List.mem_cons_self
  zero := h.zero
  ne_nil := List.cons_ne_nil _ _
  head_ne_nil := by
    intro hhead
    obtain rfl : delegate = [] := Option.some.inj hhead
    obtain ⟨-, hne⟩ := Option.filter_eq_some_iff.1 h.given
    cases hne

/-- The hand-over leaves the machine as it is, but for the count of calls. -/
theorem HandsOver.bare_eq (h : HandsOver s tokens delegate) :
    (exec (Launch.main tokens) s.world).2.bare = s.world.bare := by
  obtain ⟨settings, hread, hrecipient⟩ := h.recipient?
  obtain ⟨log, hrun⟩ :=
    exec_run_of_recipient?_eq_some (w := s.world) tokens hread hrecipient
  rw [bare_exec_main_of_work h.query, hrun]
  rcases exec_executeOrEnd_cases h.canBeGiven (delegateMessage delegate)
    ((s.world.withThreshold settings.logLevel).readied (handedOver s.environment) log)
    with ⟨e, hexec⟩ | hexec
  · exact congrArg (World.bare ·.2) hexec
  · exact congrArg (World.bare ·.2) hexec

/-- **The hand-over is one call,** and changes nothing. -/
theorem handOver_main (h : HandsOver s tokens delegate) :
    HandOver s tokens delegate (s.perform (Launch.main tokens)) := by
  obtain ⟨settings, hread, hrecipient⟩ := h.recipient?
  obtain ⟨log, hrun⟩ :=
    exec_run_of_recipient?_eq_some (w := s.world) tokens hread hrecipient
  have htree := World.tree_eq_of_bare_eq h.bare_eq
  rw [main_of_no_query h.query] at htree
  rw [perform_eq, main_of_no_query h.query]
  rcases exec_executeOrEnd_cases h.canBeGiven (delegateMessage delegate)
    ((s.world.withThreshold settings.logLevel).readied (handedOver s.environment) log)
    with ⟨e, hexec⟩ | hexec
  · -- What the end of the launch says does not change what can be seen of it.
    have hkept := besides_exec_exitCode (run tokens) s.world
    rw [hrun.trans hexec] at hkept
    refine ⟨htree,
      World.environment_eq_of_besides_eq hkept,
      Or.inl ⟨e, World.trace_eq_of_besides_eq hkept, ?_⟩⟩
    intro hnumber
    obtain ⟨f, hfatal, hcode⟩ := Failure.exists_fatal_of_because .environment
      (delegateMessage delegate) (e := .of e (some (.text delegate))) fun n hn => by
        cases hn
        exact hnumber
    rw [hfatal] at hexec
    obtain ⟨w', hend, -⟩ := exec_exitCode_of_fatal (hrun.trans hexec)
    rw [hend, hcode]
  · rw [exec_exitCode_of_replaced (hrun.trans hexec)]
    exact ⟨rfl, rfl, Or.inr ⟨rfl, rfl⟩⟩

/-! ## Behind the hand-over -/

/-- The environment marks the command line as handed over. -/
def IsMarked (environment : Environment) : Prop :=
  (Settings.given? environment Settings.delegatedVariable).isSome = true

/-- A handed-over environment is marked as one. -/
theorem isMarked_handedOver (environment : Environment) : IsMarked (handedOver environment) := by
  rw [IsMarked, Settings.given?, handedOver, Environment.lookup_set_self]
  rfl

/-- The session without planned faults, for processes that start with this environment. -/
def faultless (s : Session) (environment : Environment) : Session :=
  { s with machine := { s.machine with faults := [] }, environment }

/-- **Behind the hand-over** a launch does what one without a delegate does. -/
theorem endsLike_of_handsOver (h : HandsOver s tokens delegate) :
    EndsLike delegation
      (((s.perform (Launch.main tokens)).2.faultless (handedOver s.environment)).perform
        (Launch.main tokens))
      ((s.faultless (s.environment.unset Settings.delegateVariable)).perform
        (Launch.main tokens)) := by
  obtain ⟨settings, hread⟩ := h.settings
  have hmarked : Environment.AgreeBeside delegation s.environment (handedOver s.environment) :=
    Environment.agreeBeside_set (by decide) s.environment (lit "1")
  have hunset : Environment.AgreeBeside delegation s.environment
      (s.environment.unset Settings.delegateVariable) :=
    Environment.agreeBeside_unset (by decide) s.environment
  refine endsLike_of_alike (World.tree_eq_of_bare_eq h.bare_eq).symm ?_
  refine alike_exec_main (isLikeness_agreeBeside (by decide)) h.query ?_
    (Settings.read_of_agreeBeside hmarked hread)
    (Settings.read_of_agreeBeside hunset hread) ?_ ?_ rfl rfl
  · refine ⟨?_, Or.inl rfl, ?_, rfl, rfl⟩
    · have hbare := congrArg (fun m : Machine => { m with faults := [] }) h.bare_eq
      exact hbare.symm
    · exact hmarked.symm.trans hunset
  · exact Settings.recipient?_eq_none (Or.inl (isMarked_handedOver s.environment))
  · have hgiven : Settings.given? (s.environment.unset Settings.delegateVariable)
        Settings.delegateVariable = none := by
      rw [Settings.given?, Environment.lookup_unset_self]
      rfl
    exact Settings.recipient?_eq_none (Or.inr hgiven)

/-! ## Only once -/

/-- A run makes one call, that executes a program, only if it hands the command line over. -/
theorem recipient?_of_handsOff (h : HandsOff s tokens) :
    Query.ofTokens tokens = none ∧ ∃ settings delegate,
      Settings.read s.environment = .ok settings ∧ settings.recipient? = some delegate := by
  obtain ⟨program, arguments, answer, htrace⟩ := h
  rw [perform_eq] at htrace
  have hnothing : ¬s.world.Makes [] (exec (Launch.main tokens) s.world).2 := by
    intro hmakes
    cases htrace.symm.trans hmakes
  rcases hquery : Query.ofTokens tokens with _ | query
  · refine ⟨rfl, ?_⟩
    have hend := trace_exec_main_of_work hquery s.world
    rcases hsettings : Settings.read s.environment with v | settings
    · rw [exec_run_of_read_eq_error hsettings] at hend
      exact absurd (World.makes_of_trace_eq hend) hnothing
    · rcases hrecipient : settings.recipient? with _ | delegate
      · rcases hwork : exec (work settings tokens) (s.world.withThreshold settings.logLevel)
          with ⟨result, w⟩
        obtain ⟨calls, hmakes, horder⟩ := proceeds_of_exec_work hwork
        rw [exec_run_of_recipient?_eq_none hsettings hrecipient, hwork] at hend
        have hcalls : calls = [(.execute program arguments, answer)] :=
          hmakes.symm.trans (hend.symm.trans htrace)
        by_cases hends : result = .error .unending
        · exact absurd rfl ((horder.unending hends).first_ne_execute hcalls program arguments)
        · exact absurd rfl ((horder.ended hends).first_ne_execute hcalls program arguments)
      · exact ⟨settings, delegate, rfl, hrecipient⟩
  · have hanswer : Keeps (World.besides [.output, .errors]) [] (Launch.answer query) :=
      keeps_answer query
    refine absurd ?_ hnothing
    rw [Launch.main, hquery]
    exact hanswer.makes rfl

/-- A run in a marked environment does not hand the command line over. -/
theorem not_handsOff_of_isMarked (h : IsMarked s.environment) (tokens : List Text) :
    ¬HandsOff s tokens := by
  intro hoff
  obtain ⟨-, settings, delegate, hread, hrecipient⟩ := recipient?_of_handsOff hoff
  obtain ⟨-, -, -, -, hdelegated⟩ := Settings.read_eq_ok.1 hread
  rw [Settings.recipient?_eq_none (Or.inl (hdelegated.trans h))] at hrecipient
  cases hrecipient

/-- The environments are the same, and are marked. -/
def SameMarked (env env' : Environment) : Prop := env' = env ∧ IsMarked env

/-- Environments that are the same and marked stay so when a launch sets its port. -/
theorem isLikeness_sameMarked : IsLikeness SameMarked where
  lookup_eq := by
    rintro env env' ⟨rfl, -⟩ name -
    rfl
  set_port := by
    rintro env env' value ⟨rfl, hmarked⟩
    refine ⟨rfl, ?_⟩
    rw [IsMarked, Settings.given?_eq (Environment.lookup_set_of_ne env' value (by decide))]
    exact hmarked

/-- A program that a run has become in a marked environment gets a marked one. -/
theorem isMarked_of_isMarked {image : Image} (h : IsMarked s.environment)
    (hresult : (s.perform (Launch.main tokens)).1.result = .error (.replaced image)) :
    IsMarked image.environment := by
  have halike : s.world.Alike SameMarked s.world := World.Alike.refl ⟨rfl, h⟩
  have hsame : ResultsAlike SameMarked (exec (Launch.main tokens) s.world).1
      (exec (Launch.main tokens) s.world).1 := by
    rcases hquery : Query.ofTokens tokens with _ | query
    · rcases hsettings : Settings.read s.environment with v | settings
      · have hrun : exec (run tokens) s.world = exec (Action.fail _) s.world :=
          exec_run_of_read_eq_error hsettings
        rw [main_of_no_query hquery, exec_exitCode_congr hrun]
        exact (agree_exitCode (agree_expectingFatal (Agree.fail _)) _ _ halike).1
      · obtain ⟨-, -, -, -, hdelegated⟩ := Settings.read_eq_ok.1 hsettings
        have hrecipient := Settings.recipient?_eq_none (Or.inl (hdelegated.trans h))
        exact (alike_exec_main isLikeness_sameMarked hquery halike hsettings hsettings hrecipient
          hrecipient rfl rfl).1
    · rw [Launch.main, hquery]
      exact (agree_answer isLikeness_sameMarked query _ _ halike).1
  have hreplaced : (exec (Launch.main tokens) s.world).1 = .error (.replaced image) := hresult
  rw [hreplaced] at hsame
  exact hsame.environment.2

/-- A run that hands its command line over becomes the delegate, in a marked environment and with
the whole command line. -/
theorem image_of_recipient? {settings : Settings} {image : Image}
    (hquery : Query.ofTokens tokens = none) (hread : Settings.read s.environment = .ok settings)
    (hrecipient : settings.recipient? = some delegate)
    (hresult : (s.perform (Launch.main tokens)).1.result = .error (.replaced image)) :
    image.environment = handedOver s.environment ∧ image.arguments = delegate :: tokens := by
  obtain ⟨log, hrun⟩ :=
    exec_run_of_recipient?_eq_some (w := s.world) tokens hread hrecipient
  have hreplaced : exec (run tokens) s.world =
      (.error (.replaced image), (exec (Launch.main tokens) s.world).2) := by
    refine exec_of_exec_exitCode_error ?_
    rw [← main_of_no_query hquery]
    exact Prod.ext hresult rfl
  rw [hrun] at hreplaced
  rw [image_of_exec_executeOrEnd hreplaced]
  exact ⟨rfl, rfl⟩

/-- A program to which a run has handed the command line over gets a marked environment. -/
theorem isMarked_of_handsOff {image : Image} (h : HandsOff s tokens)
    (hresult : (s.perform (Launch.main tokens)).1.result = .error (.replaced image)) :
    IsMarked image.environment := by
  obtain ⟨hquery, settings, delegate, hread, hrecipient⟩ := recipient?_of_handsOff h
  rw [(image_of_recipient? hquery hread hrecipient hresult).1]
  exact isMarked_handedOver s.environment

/-- A run of the launcher: the session and the tokens. -/
structure Run where
  session : Session
  tokens : List Text

/-- One run has become the launcher, and the other one is that. -/
def Relaunches (first second : Run) : Prop :=
  ∃ image, (first.session.perform (Launch.main first.tokens)).1.result = .error (.replaced image) ∧
    second.session.environment = image.environment ∧ second.tokens = image.arguments.drop 1

/-- One run is later than the other in a chain in which each run has become the next. -/
inductive Later : Run → Run → Prop
  | next {first second : Run} (h : Relaunches first second) : Later first second
  | more {first second third : Run} (h : Relaunches first second) (rest : Later second third) :
      Later first third

/-- **In a chain of launchers the command line is handed over once** at most. -/
theorem not_handsOff_of_later {first last : Run} (h : Later first last)
    (hfirst : HandsOff first.session first.tokens) : ¬HandsOff last.session last.tokens := by
  have hmarked : ∀ {first last : Run}, Later first last →
      (∀ image,
        (first.session.perform (Launch.main first.tokens)).1.result = .error (.replaced image) →
        IsMarked image.environment) → IsMarked last.session.environment := by
    intro first last h
    induction h with
    | next h =>
      intro hfirst
      obtain ⟨image, hresult, henvironment, -⟩ := h
      rw [henvironment]
      exact hfirst image hresult
    | more h _ ih =>
      intro hfirst
      obtain ⟨image, hresult, henvironment, -⟩ := h
      refine ih fun image' hresult' => ?_
      refine isMarked_of_isMarked ?_ hresult'
      rw [henvironment]
      exact hfirst image hresult
  exact not_handsOff_of_isMarked (hmarked h fun image => isMarked_of_handsOff hfirst) last.tokens

/-- **A command line is handed over once, and nobody can tell.** The hand-over is one call. If the
delegate is the launcher itself, then it hands nothing over, and without faults it has the same end
as a launch for which no delegate is set. In a chain of launchers, each of which has become the
next, at most one hands the command line over. -/
theorem hands_over_once (h : HandsOver s tokens delegate) :
    HandOver s tokens delegate (s.perform (Launch.main tokens)) ∧
    (∀ image, (s.perform (Launch.main tokens)).1.result = .error (.replaced image) →
      let again := (s.perform (Launch.main tokens)).2.faultless image.environment
      let undelegated := s.faultless (s.environment.unset Settings.delegateVariable)
      ¬HandsOff again (image.arguments.drop 1) ∧
        EndsLike delegation (again.perform (Launch.main (image.arguments.drop 1)))
          (undelegated.perform (Launch.main tokens))) ∧
    ∀ first last, Later first last → HandsOff first.session first.tokens →
      ¬HandsOff last.session last.tokens := by
  refine ⟨handOver_main h, fun image hresult => ?_, fun first last hlater hfirst =>
    not_handsOff_of_later hlater hfirst⟩
  obtain ⟨settings, hread, hrecipient⟩ := h.recipient?
  obtain ⟨henvironment, harguments⟩ := image_of_recipient? h.query hread hrecipient hresult
  rw [henvironment, harguments]
  exact ⟨not_handsOff_of_isMarked (isMarked_handedOver s.environment) tokens,
    endsLike_of_handsOver h⟩

/-! ### A delegate that is a program -/

/-- A session with a program that is a delegate. -/
def delegating : Session :=
  { onlyTrue with environment :=
    [("USER", lit "user"), ("PATH", lit "/bin"), (Settings.delegateVariable, lit "/bin/true")] }

/-- The command line that is handed over, with an option in it and one behind the command. -/
def delegatedTokens : List Text := [lit "--output_base=/base", lit "--", lit "true", lit "--help"]

/-- This session hands its tokens over to a program that can be executed. -/
theorem handsOver_delegating : HandsOver delegating delegatedTokens (lit "/bin/true") where
  settings :=
    ⟨{ outputBase := none, directoryMode := 0o755, logLevel := Level.warning
       delegate := some (lit "/bin/true"), delegated := false }, eq_ok_of_toOption (by decide)⟩
  given := by decide
  unmarked := by decide
  query := by decide
  zero := by decide

/-- The delegate takes the command line over, and so does its program, which then ends like a launch
without a delegate. -/
theorem hands_over_once_true :
    HandsOver delegating delegatedTokens (lit "/bin/true") ∧
    HandOver delegating delegatedTokens (lit "/bin/true")
      (delegating.perform (Launch.main delegatedTokens)) ∧
    ∃ image,
      (delegating.perform (Launch.main delegatedTokens)).1.result = .error (.replaced image) ∧
      image.arguments = lit "/bin/true" :: delegatedTokens ∧
      EndsLike delegation
        (((delegating.perform (Launch.main delegatedTokens)).2.faultless image.environment).perform
          (Launch.main (image.arguments.drop 1)))
        ((delegating.faultless (delegating.environment.unset Settings.delegateVariable)).perform
          (Launch.main delegatedTokens)) := by
  obtain ⟨hfirst, hagain, -⟩ := hands_over_once handsOver_delegating
  have htrace : (delegating.perform (Launch.main delegatedTokens)).1.process.trace =
      [(.execute (lit "/bin/true") (lit "/bin/true" :: delegatedTokens), .ok)] := by
    decide
  have hresult : (delegating.perform (Launch.main delegatedTokens)).1.result = .error (.replaced
      { path := lit "/bin/true", arguments := lit "/bin/true" :: delegatedTokens
        environment := handedOver delegating.environment, output := [], errors := [] }) := by
    obtain ⟨e, herror, -⟩ | ⟨-, hresult⟩ := hfirst.ends
    · rw [htrace] at herror
      cases herror
    · exact hresult
  exact ⟨handsOver_delegating, hfirst, _, hresult, rfl, (hagain _ hresult).2⟩

end Session

end Launcher
