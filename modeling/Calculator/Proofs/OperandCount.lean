import Calculator.Proofs.MachineSteps
import Calculator.Proofs.PendingStack

/-!
# Counting operands and operators

The conversion to postfix order only moves tokens, and the height of the stack of values grows by
one with each operand and shrinks by one with each operator. So a sequence of tokens, however
malformed, can only have a value if it has exactly one operand more than operators.
-/

namespace Calculator

namespace Token

/-- The binary operators among the tokens. -/
def isOperator : Token → Bool
  | operator _ => true
  | _ => false

/-- The number of operands in a sequence. -/
def operands (tokens : List Token) : Nat :=
  tokens.countP isOperand

/-- The number of binary operators in a sequence. -/
def operators (tokens : List Token) : Nat :=
  tokens.countP isOperator

/-- The operands of a sequence are those of its first token and of the others. -/
theorem operands_cons (token : Token) (tokens : List Token) :
    operands (token :: tokens) = operands [token] + operands tokens := by
  rw [← List.singleton_append, operands, List.countP_append]
  rfl

/-- The operators of a sequence are those of its first token and of the others. -/
theorem operators_cons (token : Token) (tokens : List Token) :
    operators (token :: tokens) = operators [token] + operators tokens := by
  rw [← List.singleton_append, operators, List.countP_append]
  rfl

/-- The tokens of a sequence that are not brackets. -/
def unbracketed (tokens : List Token) : List Token :=
  tokens.filter fun token => !token.isBracket

/-- Brackets are left out of the first token and of the others. -/
theorem unbracketed_cons (token : Token) (tokens : List Token) :
    unbracketed (token :: tokens) = unbracketed [token] ++ unbracketed tokens := by
  rw [← List.singleton_append, unbracketed, List.filter_append]
  rfl

/-- Brackets are no operands. -/
theorem operands_unbracketed (tokens : List Token) :
    operands (unbracketed tokens) = operands tokens := by
  rw [operands, operands, unbracketed, List.countP_filter]
  congr 1
  funext token
  cases token <;> rfl

/-- Brackets are no operators. -/
theorem operators_unbracketed (tokens : List Token) :
    operators (unbracketed tokens) = operators tokens := by
  rw [operators, operators, unbracketed, List.countP_filter]
  congr 1
  funext token
  cases token <;> rfl

end Token

open Token
open scoped List

namespace Postfix

/-- A step loses no token and adds none. -/
theorem Takes.perm {stack after : List Pending} {token : Token} {out : List Token}
    (h : Takes stack token out after) :
    out ++ released after ~ unbracketed [token] ++ released stack := by
  cases h with
  | operand hoperand =>
    cases token with
    | number literal => rfl
    | name n => rfl
    | _ => cases hoperand
  | function f => rfl
  | opening => rfl
  | closing hstack habove =>
    rw [hstack, List.append_assoc, call_released]
    simp [unbracketed, isBracket]
  | operator op hstack htight hloose =>
    rw [hstack]
    simp [unbracketed, isBracket]

/-- A run loses no token and adds none. -/
theorem Runs.perm {stack after : List Pending} {tokens out : List Token}
    (h : Runs stack tokens out after) :
    out ++ released after ~ unbracketed tokens ++ released stack := by
  induction h with
  | nil stack => rfl
  | @cons stack middle after token tokens out later first rest ih =>
    calc out ++ later ++ released after
      _ = out ++ (later ++ released after) := List.append_assoc ..
      _ ~ out ++ (unbracketed tokens ++ released middle) := ih.append_left out
      _ ~ unbracketed tokens ++ (out ++ released middle) := by
        rw [← List.append_assoc, ← List.append_assoc]
        exact List.perm_append_comm.append_right _
      _ ~ unbracketed tokens ++ (unbracketed [token] ++ released stack) :=
        first.perm.append_left _
      _ ~ unbracketed (token :: tokens) ++ released stack := by
        rw [unbracketed_cons token tokens, ← List.append_assoc]
        exact List.perm_append_comm.append_right _

/-- The postfix order is a rearrangement of the tokens that are not brackets. -/
theorem perm_of_ofTokens {tokens rpn : List Token} (h : ofTokens tokens = .ok rpn) :
    rpn ~ unbracketed tokens := by
  obtain ⟨out, stack, hruns, -, rfl⟩ := ofTokens_eq_ok_iff.mp h
  simpa [released] using hruns.perm

/-- The postfix order has the operands of the tokens. -/
theorem operands_of_ofTokens {tokens rpn : List Token} (h : ofTokens tokens = .ok rpn) :
    operands rpn = operands tokens := by
  have hcount : operands rpn = operands (unbracketed tokens) := (perm_of_ofTokens h).countP_eq _
  rw [hcount, operands_unbracketed]

/-- The postfix order has the operators of the tokens. -/
theorem operators_of_ofTokens {tokens rpn : List Token} (h : ofTokens tokens = .ok rpn) :
    operators rpn = operators tokens := by
  have hcount : operators rpn = operators (unbracketed tokens) := (perm_of_ofTokens h).countP_eq _
  rw [hcount, operators_unbracketed]

end Postfix

namespace StackMachine

/-- A move adds one value for an operand and takes one away for an operator. -/
theorem Moves.length {b : Bindings} {stack after : List Float} {token : Token}
    (h : Moves b stack token after) :
    after.length + operators [token] = stack.length + operands [token] := by
  cases h <;> rfl

/-- The height of the stack behind a run counts operands less operators. -/
theorem length_of_run {b : Bindings} {stack after : List Float} {tokens : List Token}
    (h : run b stack tokens = .ok after) :
    after.length + operators tokens = stack.length + operands tokens := by
  induction tokens generalizing stack with
  | nil => cases h; rfl
  | cons token tokens ih =>
    obtain ⟨middle, hmoves, hrun⟩ := run_cons_eq_ok_iff.mp h
    have hfirst := hmoves.length
    have hrest := ih hrun
    rw [operands_cons, operators_cons]
    omega

/-- An evaluation succeeds exactly if the run leaves a single value, which is then the result. -/
theorem evaluate_eq_ok_iff {b : Bindings} {rpn : List Token} {value : Float} :
    evaluate b rpn = .ok value ↔ run b [] rpn = .ok [value] := by
  rw [evaluate]
  cases run b [] rpn with
  | error e => simp
  | ok stack =>
    match stack with
    | [] => simp
    | [x] => simp
    | x :: y :: rest => simp

/-- Only a sequence with exactly one operand more than operators has a value. -/
theorem operands_of_evaluate {b : Bindings} {rpn : List Token} {value : Float}
    (h : evaluate b rpn = .ok value) : operands rpn = operators rpn + 1 := by
  have hlength := length_of_run (evaluate_eq_ok_iff.mp h)
  simp only [List.length_singleton, List.length_nil] at hlength
  omega

end StackMachine

/-- Tokens, however malformed, can only have a value if there is exactly one operand more than
operators among them. -/
theorem operands_of_value {tokens rpn : List Token} {b : Bindings} {value : Float}
    (hrpn : Postfix.ofTokens tokens = .ok rpn) (hvalue : StackMachine.evaluate b rpn = .ok value) :
    operands tokens = operators tokens + 1 := by
  rw [← Postfix.operands_of_ofTokens hrpn, ← Postfix.operators_of_ofTokens hrpn]
  exact StackMachine.operands_of_evaluate hvalue

end Calculator
