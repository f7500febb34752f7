/-!
# Computations that may fail

The launcher's functions on values, paths and trees come to a value or to an error. These are the
rules by which such computations are carried out in proofs.

## Main results

* `Launcher.bind_eq_ok` — when one computation after the other comes to a value.
-/

namespace Launcher

variable {ε α β : Type}

/-- Throwing an error is having it as the result. -/
@[simp] theorem throw_eq_error (e : ε) : (throw e : Except ε α) = .error e := rfl

/-- Returning a value is having it as the result. -/
@[simp] theorem pure_eq_ok (a : α) : (pure a : Except ε α) = .ok a := rfl

/-- Behind an error nothing is done any more. -/
@[simp] theorem error_bind (e : ε) (f : α → Except ε β) : (.error e >>= f) = .error e := rfl

/-- A value is handed to what comes next. -/
@[simp] theorem ok_bind (a : α) (f : α → Except ε β) : (.ok a >>= f) = f a := rfl

/-- An error gives no value. -/
@[simp] theorem toOption_error (e : ε) : (.error e : Except ε α).toOption = none := rfl

/-- A result that is a value gives this value. -/
@[simp] theorem toOption_ok (a : α) : (.ok a : Except ε α).toOption = some a := rfl

/-- Mapping the error of a result changes an error. -/
@[simp] theorem mapError_error (f : ε → β) (e : ε) :
    Except.mapError f (.error e : Except ε α) = .error (f e) := rfl

/-- Mapping the error of a result leaves a value as it is. -/
@[simp] theorem mapError_ok (f : ε → β) (a : α) : Except.mapError f (.ok a) = .ok a := rfl

/-- One computation after the other comes to a value if the first comes to one from which the second
does. -/
theorem bind_eq_ok {x : Except ε α} {f : α → Except ε β} {b : β} :
    (x >>= f) = .ok b ↔ ∃ a, x = .ok a ∧ f a = .ok b := by
  rcases x with e | a
  · simp
  · simp

/-- A computation whose value is known has come to it. -/
theorem eq_ok_of_toOption {x : Except ε α} {a : α} (h : x.toOption = some a) : x = .ok a := by
  rcases x with e | b
  · cases h
  · exact congrArg Except.ok (Option.some.inj h)

/-- The same for a computation whose value is that of another one. -/
theorem eq_ok_ok_of_toOption {x : Except ε (Except β α)} {a : α}
    (h : x.toOption.bind Except.toOption = some a) : x = .ok (.ok a) := by
  rcases x with e | y
  · cases h
  · exact congrArg Except.ok (eq_ok_of_toOption h)

end Launcher
