/-!
# Computations in sequence

A computation that may fail goes on if its first part succeeds. Such a sequence is read in two
directions: what it comes to once the outcome of its first part is known, and what its parts have
come to once the outcome of the whole is known.
-/

namespace Except

variable {ε α β : Type}

/-- A result is a success. -/
@[simp]
theorem pure_eq_ok (a : α) : (pure a : Except ε α) = .ok a :=
  rfl

/-- What is thrown is the error. -/
@[simp]
theorem throw_eq_error (e : ε) : (throw e : Except ε α) = .error e :=
  rfl

/-- Behind a success the rest goes on from its result. -/
@[simp]
theorem ok_bind (a : α) (rest : α → Except ε β) : Except.ok a >>= rest = rest a :=
  rfl

/-- Behind an error nothing goes on. -/
@[simp]
theorem error_bind (e : ε) (rest : α → Except ε β) :
    (Except.error e : Except ε α) >>= rest = .error e :=
  rfl

/-- A sequence that succeeds has succeeded in both parts. -/
theorem bind_eq_ok_iff {first : Except ε α} {rest : α → Except ε β} {b : β} :
    first >>= rest = .ok b ↔ ∃ a, first = .ok a ∧ rest a = .ok b := by
  cases first with
  | error e => simp
  | ok a => simp

/-- A sequence that fails has failed in its first part, or behind its success. -/
theorem bind_eq_error_iff {first : Except ε α} {rest : α → Except ε β} {e : ε} :
    first >>= rest = .error e ↔
      first = .error e ∨ ∃ a, first = .ok a ∧ rest a = .error e := by
  cases first with
  | error e => simp
  | ok a => simp

end Except
