import Calculator.Proofs.Sequencing
import Calculator.StackMachine

/-!
# The moves of the stack machine

A token moves the stack of values by one of six rules. They are stated here as a relation, so that
whatever holds of every move is shown by cases on the rules, and carried through a whole run by
induction on its tokens, without opening the machine.
-/

namespace Calculator.StackMachine

/-- What taking a token makes of the stack. -/
inductive Moves (b : Bindings) : List Float → Token → List Float → Prop where
  /-- A literal puts its value on top. -/
  | number {literal : String} {value : Float} {stack : List Float}
    (hvalue : literalValue literal = .ok value) : Moves b stack (.number literal) (value :: stack)
  /-- A variable puts its value on top. -/
  | name {n : String} {value : Float} {stack : List Float}
    (hvalue : variableValue b n = .ok value) : Moves b stack (.name n) (value :: stack)
  /-- An operator replaces its operands, the right one on top, by its result. -/
  | operator {op : Operator} {x y value : Float} {rest : List Float}
    (hvalue : op.apply x y = .ok value) : Moves b (y :: x :: rest) (.operator op) (value :: rest)
  /-- A function replaces its argument by its result. -/
  | function {f : Builtin} {x value : Float} {rest : List Float}
    (hvalue : f.apply x = .ok value) : Moves b (x :: rest) (.function f) (value :: rest)
  /-- An opening bracket does nothing. -/
  | opening {stack : List Float} : Moves b stack .opening stack
  /-- A closing bracket does nothing. -/
  | closing {stack : List Float} : Moves b stack .closing stack

/-- A step that succeeds follows one of the rules. -/
theorem step_eq_ok_iff {b : Bindings} {stack after : List Float} {token : Token} :
    step b stack token = .ok after ↔ Moves b stack token after := by
  constructor
  · intro hok
    cases token with
    | number literal =>
      obtain ⟨value, hvalue, hpush⟩ := Except.bind_eq_ok_iff.mp hok
      cases hpush
      exact .number hvalue
    | name n =>
      obtain ⟨value, hvalue, hpush⟩ := Except.bind_eq_ok_iff.mp hok
      cases hpush
      exact .name hvalue
    | operator op =>
      cases stack with
      | nil => cases hok
      | cons y stack =>
        cases stack with
        | nil => cases hok
        | cons x rest =>
          obtain ⟨value, hvalue, hpush⟩ := Except.bind_eq_ok_iff.mp hok
          cases hpush
          exact .operator hvalue
    | function f =>
      cases stack with
      | nil => cases hok
      | cons x rest =>
        obtain ⟨value, hvalue, hpush⟩ := Except.bind_eq_ok_iff.mp hok
        cases hpush
        exact .function hvalue
    | opening => cases hok; exact .opening
    | closing => cases hok; exact .closing
  · intro hmoves
    cases hmoves with
    | number hvalue => simp [step, hvalue]
    | name hvalue => simp [step, hvalue]
    | operator hvalue => simp [step, hvalue]
    | function hvalue => simp [step, hvalue]
    | opening => rfl
    | closing => rfl

/-- A run that succeeds makes the move of its first token and then those of the others. -/
theorem run_cons_eq_ok_iff {b : Bindings} {stack after : List Float} {token : Token}
    {tokens : List Token} :
    run b stack (token :: tokens) = .ok after ↔
      ∃ middle, Moves b stack token middle ∧ run b middle tokens = .ok after := by
  simp only [run, List.foldlM_cons, Except.bind_eq_ok_iff, step_eq_ok_iff]

/-- A run that fails does so at its first token, or behind its move. -/
theorem run_cons_eq_error_iff {b : Bindings} {stack : List Float} {token : Token}
    {tokens : List Token} {e : EvalError} :
    run b stack (token :: tokens) = .error e ↔
      step b stack token = .error e ∨
        ∃ middle, Moves b stack token middle ∧ run b middle tokens = .error e := by
  simp only [run, List.foldlM_cons, Except.bind_eq_error_iff, step_eq_ok_iff]

end Calculator.StackMachine
