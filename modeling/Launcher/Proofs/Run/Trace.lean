import Launcher.Proofs.Run.Frame

/-!
# The calls of an action

The trace of a process only grows. What is added to it between two worlds are the calls that have
been made between them.

## Main definitions

* `Launcher.World.Makes` — the calls between two worlds.

## Main results

* `Launcher.World.Makes.trans` and `Launcher.World.makes_afterCall` — calls one after the other, and
  one call.
* `Launcher.Action.Keeps.makes` — an action that keeps the trace makes no calls.
-/

namespace Launcher

open Launcher.Action

variable {calls : List (Call × Answer)} {w w' w'' : World}

namespace World

/-- Between two worlds of a process these calls have been made. -/
def Makes (w : World) (calls : List (Call × Answer)) (w' : World) : Prop :=
  w'.process.trace = w.process.trace ++ calls

/-- Calls up to one world are followed by the calls up to the next. -/
theorem Makes.trans {calls' : List (Call × Answer)} (h : w.Makes calls w')
    (h' : w'.Makes calls' w'') : w.Makes (calls ++ calls') w'' := by
  rw [Makes, h', h, List.append_assoc]

/-- Where the trace has stayed as it was, no call has been made. -/
theorem makes_of_trace_eq (h : w'.process.trace = w.process.trace) : w.Makes [] w' := by
  rw [Makes, h, List.append_nil]

/-- A call that leaves a trace has been made. -/
theorem makes_afterCall {c : Call} (h : c.isTraced = true) (answer : Answer) (w : World) :
    w.Makes [(c, answer)] (w.afterCall c answer) := by
  show (w.process.recorded c answer).trace = _
  rw [Process.recorded, if_pos h]

end World

namespace Action

variable {α β : Type} {codes : List ExitCode} {parts : List World.Part} {first : Action α}
  {next : α → Action β}

/-- An action that keeps the trace makes no calls. -/
theorem Keeps.makes {result : Except Stop α} (h : Keeps (World.besides parts) codes first)
    (hexec : exec first w = (result, w'))
    [World.Part.Among parts [.tree, .environment, .threshold, .log, .output, .errors]] :
    w.Makes [] w' :=
  World.makes_of_trace_eq (World.trace_eq_of_besides_eq (h.view_eq_of_exec hexec))

/-- The calls of two actions are those of the second if the first makes none. -/
theorem Keeps.makes_first {result : Except Stop β} (h : Keeps (World.besides parts) codes first)
    (hexec : exec (first >>= next) w = (result, w'))
    [World.Part.Among parts [.tree, .environment, .threshold, .log, .output, .errors]] :
    w.Makes [] w' ∨ ∃ a w₁, w.Makes [] w₁ ∧ exec (next a) w₁ = (result, w') := by
  rcases hfirst : exec first w with ⟨stop | a, w₁⟩
  · rw [exec_bind_of_error hfirst] at hexec
    cases hexec
    exact Or.inl (h.makes hfirst)
  · rw [exec_bind_of_ok hfirst] at hexec
    exact Or.inr ⟨a, w₁, h.makes hfirst, hexec⟩

/-- The calls of two actions are those of the first if the second makes none. -/
theorem Keeps.makes_last (parts : List World.Part) (codes : List ExitCode)
    {result : Except Stop β}
    (h : ∀ a, Keeps (World.besides parts) codes (next a))
    (hexec : exec (first >>= next) w = (result, w'))
    [World.Part.Among parts [.tree, .environment, .threshold, .log, .output, .errors]] :
    ∃ early w₁, exec first w = (early, w₁) ∧ w₁.Makes [] w' := by
  obtain ⟨early, w₁, hfirst, hkept⟩ := Keeps.exists_exec_first h hexec
  exact ⟨early, w₁, hfirst,
    World.makes_of_trace_eq (World.trace_eq_of_besides_eq hkept)⟩

end Action

end Launcher
