import Calculator.Proofs.Sequencing
import Calculator.Tree

/-!
# How a tree can fail

In a tree every operator and every function has its operands. So the value of a tree fails only
at a leaf that has no value, at a division by zero or at the root of a negative number.
-/

namespace Calculator

/-- Operands do not fit operators and functions: there are too few of them or too many. -/
def EvalError.isMisfit : EvalError → Bool
  | missingOperand _ | missingArgument _ | countMismatch _ => true
  | _ => false

/-- Only a division fails, and only if the divisor compares equal to zero. -/
theorem Operator.error_of_apply {op : Operator} {x y : Float} {e : EvalError}
    (h : op.apply x y = .error e) : op = .div ∧ (y == 0.0) = true ∧ e = .divisionByZero := by
  cases op with
  | div =>
    simp only [Operator.apply] at h
    split at h
    · rename_i hzero
      cases h
      exact ⟨rfl, hzero, rfl⟩
    · cases h
  | _ => cases h

/-- Only a square root fails, and only for a negative argument. -/
theorem Builtin.error_of_apply {f : Builtin} {x : Float} {e : EvalError}
    (h : f.apply x = .error e) : f = .sqrt ∧ x < 0.0 ∧ e = .negativeRoot x := by
  cases f with
  | sqrt =>
    simp only [Builtin.apply] at h
    split at h
    · rename_i hnegative
      cases h
      exact ⟨rfl, hnegative, rfl⟩
    · cases h
  | _ => cases h

/-- The errors of nodes that have their operands, with the leaves among the given tokens. -/
inductive NodeError (b : Bindings) (tokens : List Token) : EvalError → Prop where
  /-- A literal is not a numeral. -/
  | literal {literal : String} (hmem : .number literal ∈ tokens)
    (hnone : Number.parse? literal = none) : NodeError b tokens (.badLiteral literal)
  /-- A variable has no value. -/
  | unbound {name : String} (hmem : .name name ∈ tokens) (hnone : b.get? name = none) :
    NodeError b tokens (.unboundVariable name)
  | division : NodeError b tokens .divisionByZero
  | root {x : Float} (hnegative : x < 0.0) : NodeError b tokens (.negativeRoot x)

/-- More leaves can only fail in more ways. -/
theorem NodeError.mono {b : Bindings} {tokens more : List Token} {e : EvalError}
    (h : NodeError b tokens e) (hsubset : tokens ⊆ more) : NodeError b more e := by
  cases h with
  | literal hmem hnone => exact .literal (hsubset hmem) hnone
  | unbound hmem hnone => exact .unbound (hsubset hmem) hnone
  | division => exact .division
  | root hnegative => exact .root hnegative

namespace Tree

/-- A tree fails at one of its nodes. -/
theorem error_of_value {b : Bindings} {t : Tree} {e : EvalError} (h : t.value b = .error e) :
    NodeError b t.postorder e := by
  induction t generalizing e with
  | number literal =>
    simp only [value, StackMachine.literalValue] at h
    split at h
    · cases h
    · rename_i hnone
      cases h
      exact .literal (by simp [postorder]) hnone
  | name n =>
    simp only [value, StackMachine.variableValue] at h
    split at h
    · cases h
    · rename_i hnone
      cases h
      exact .unbound (by simp [postorder]) hnone
  | call f argument ih =>
    rcases Except.bind_eq_error_iff.mp h with hargument | ⟨x, -, happly⟩
    · exact (ih hargument).mono (by simp [postorder])
    · obtain ⟨-, hnegative, rfl⟩ := Builtin.error_of_apply happly
      exact .root hnegative
  | binary op left right ihl ihr =>
    rcases Except.bind_eq_error_iff.mp h with hleft | ⟨x, -, hrest⟩
    · exact (ihl hleft).mono (by simp [postorder])
    · rcases Except.bind_eq_error_iff.mp hrest with hright | ⟨y, -, happly⟩
      · exact (ihr hright).mono (by simp [postorder])
      · obtain ⟨-, -, rfl⟩ := Operator.error_of_apply happly
        exact .division

/-- In a tree operands fit operators and functions. -/
theorem isMisfit_of_value {b : Bindings} {t : Tree} {e : EvalError} (h : t.value b = .error e) :
    e.isMisfit = false := by
  cases error_of_value h <;> rfl

end Tree

end Calculator
