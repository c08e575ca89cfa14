/-!
# DisplayComposer.Crash

**Arithmetic that stops the program.** Overflow of a coordinate or of a counter
is not an error of the client that caused it: it ends the engine for all
clients. Whatever can overflow returns an `Except Crash`, so what can crash is
visible in its type. What is made of several parts returns only if all of them do.
-/

namespace DisplayComposer

/-- Why the engine stopped for good. -/
inductive Crash where
  | subtractionOverflow
  | additionOverflow
  deriving DecidableEq, Repr

def Crash.message : Crash → String
  | .subtractionOverflow => "attempt to subtract with overflow"
  | .additionOverflow => "attempt to add with overflow"

variable {ε α β : Type}

theorem Except.bind_eq_ok_iff {x : Except ε α} {f : α → Except ε β} {b : β} :
    x.bind f = .ok b ↔ ∃ a, x = .ok a ∧ f a = .ok b := by
  cases x with
  | error e => simp [Except.bind]
  | ok a => simp [Except.bind]

theorem Except.map_eq_ok_iff {x : Except ε α} {f : α → β} {b : β} :
    x.map f = .ok b ↔ ∃ a, x = .ok a ∧ f a = b := by
  cases x with
  | error e => simp [Except.map]
  | ok a => simp [Except.map]

theorem Except.toOption_eq_some_iff {x : Except ε α} {a : α} :
    x.toOption = some a ↔ x = .ok a := by
  cases x with
  | error e => simp [Except.toOption]
  | ok b => simp [Except.toOption]

end DisplayComposer
