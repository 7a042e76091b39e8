import Calculator.Proofs.MachineSteps
import Calculator.Proofs.TreeErrors

/-!
# How the stack machine can fail

A sequence of tokens, however malformed, fails at a token that has no value or that its operands
do not allow, or because operands do not fit.
-/

namespace Calculator.StackMachine

/-- How taking a token can fail. -/
inductive Fails (b : Bindings) : List Float → Token → EvalError → Prop where
  /-- A literal is not a numeral. -/
  | literal {stack : List Float} {literal : String} (hnone : Number.parse? literal = none) :
    Fails b stack (.number literal) (.badLiteral literal)
  /-- A variable has no value. -/
  | unbound {stack : List Float} {n : String} (hnone : b.get? n = none) :
    Fails b stack (.name n) (.unboundVariable n)
  /-- An operator finds fewer than two values. -/
  | missingOperand {stack : List Float} (op : Operator) (hfew : stack.length < 2) :
    Fails b stack (.operator op) (.missingOperand op)
  /-- The right operand of a division compares equal to zero. -/
  | division {x y : Float} {rest : List Float} (hzero : (y == 0.0) = true) :
    Fails b (y :: x :: rest) (.operator .div) .divisionByZero
  /-- A function finds no value. -/
  | missingArgument (f : Builtin) : Fails b [] (.function f) (.missingArgument f)
  /-- The argument of a root is negative. -/
  | root {x : Float} {rest : List Float} (hnegative : x < 0.0) :
    Fails b (x :: rest) (.function .sqrt) (.negativeRoot x)

/-- A step that fails does so in one of these ways. -/
theorem fails_of_step {b : Bindings} {stack : List Float} {token : Token} {e : EvalError}
    (h : step b stack token = .error e) : Fails b stack token e := by
  cases token with
  | number literal =>
    simp only [step, literalValue] at h
    split at h
    · cases h
    · rename_i hnone
      cases h
      exact .literal hnone
  | name n =>
    simp only [step, variableValue] at h
    split at h
    · cases h
    · rename_i hnone
      cases h
      exact .unbound hnone
  | operator op =>
    cases stack with
    | nil => cases h; exact .missingOperand op (by simp)
    | cons y stack =>
      cases stack with
      | nil => cases h; exact .missingOperand op (by simp)
      | cons x rest =>
        rcases Except.bind_eq_error_iff.mp h with happly | ⟨value, -, hpush⟩
        · obtain ⟨rfl, hzero, rfl⟩ := Operator.error_of_apply happly
          exact .division hzero
        · cases hpush
  | function f =>
    cases stack with
    | nil => cases h; exact .missingArgument f
    | cons x rest =>
      rcases Except.bind_eq_error_iff.mp h with happly | ⟨value, -, hpush⟩
      · obtain ⟨rfl, hnegative, rfl⟩ := Builtin.error_of_apply happly
        exact .root hnegative
      · cases hpush
  | opening => cases h
  | closing => cases h

/-- A run that fails does so at one of its tokens. -/
theorem exists_fails_of_run {b : Bindings} {stack : List Float} {tokens : List Token}
    {e : EvalError} (h : run b stack tokens = .error e) :
    ∃ token ∈ tokens, ∃ values, Fails b values token e := by
  induction tokens generalizing stack with
  | nil => cases h
  | cons token tokens ih =>
    rcases run_cons_eq_error_iff.mp h with hstep | ⟨middle, -, hrun⟩
    · exact ⟨token, List.mem_cons_self .., stack, fails_of_step hstep⟩
    · obtain ⟨other, hmem, hfails⟩ := ih hrun
      exact ⟨other, List.mem_cons_of_mem _ hmem, hfails⟩

/-- A token fails like the node that it stands for, or finds too few values. -/
theorem Fails.nodeError {b : Bindings} {stack : List Float} {token : Token} {e : EvalError}
    (h : Fails b stack token e) {tokens : List Token} (hmem : token ∈ tokens) :
    NodeError b tokens e ∨ e.isMisfit = true := by
  cases h with
  | literal hnone => exact Or.inl (.literal hmem hnone)
  | unbound hnone => exact Or.inl (.unbound hmem hnone)
  | missingOperand op hfew => exact Or.inr rfl
  | division hzero => exact Or.inl .division
  | missingArgument f => exact Or.inr rfl
  | root hnegative => exact Or.inl (.root hnegative)

/-- A run fails at one of its tokens. -/
theorem error_of_run {b : Bindings} {stack : List Float} {tokens : List Token} {e : EvalError}
    (h : run b stack tokens = .error e) : NodeError b tokens e ∨ e.isMisfit = true := by
  obtain ⟨token, hmem, values, hfails⟩ := exists_fails_of_run h
  exact hfails.nodeError hmem

/-- An evaluation fails at one of its tokens, or because operands do not fit. -/
theorem error_of_evaluate {b : Bindings} {rpn : List Token} {e : EvalError}
    (h : evaluate b rpn = .error e) : NodeError b rpn e ∨ e.isMisfit = true := by
  rcases Except.bind_eq_error_iff.mp h with hrun | ⟨stack, -, hlast⟩
  · exact error_of_run hrun
  · match stack with
    | [] => cases hlast; exact Or.inr rfl
    | [value] => cases hlast
    | _ :: _ :: _ => cases hlast; exact Or.inr rfl

end Calculator.StackMachine
