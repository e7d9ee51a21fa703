import Mathlib.Logic.Basic

/-! # Computations that can fail

A sequence of steps succeeds if every step does, and fails with the first step that fails.
-/

namespace Polymatch

universe u v

variable {ε : Type v} {α β : Type u} {x : Except ε α} {b : β} {e : ε}

theorem bind_eq_ok {f : α → Except ε β} : (x >>= f) = .ok b ↔ ∃ a, x = .ok a ∧ f a = .ok b := by
  cases x <;> simp [bind, Except.bind]

theorem bind_eq_error {f : α → Except ε β} :
    (x >>= f) = .error e ↔ x = .error e ∨ ∃ a, x = .ok a ∧ f a = .error e := by
  cases x <;> simp [bind, Except.bind]

theorem map_eq_ok {f : α → β} : f <$> x = .ok b ↔ ∃ a, x = .ok a ∧ f a = b := by
  cases x <;> simp [Functor.map, Except.map]

end Polymatch
