import Calculator.Proofs.MachineErrors
import Calculator.Proofs.OperandCount

/-!
# What the conversion keeps

Operands never wait on the stack, so they are released in the order in which they are read, however
operators and functions are moved around them. Together with the counts this ties the end of every
evaluation to the tokens as they were written: as many values are left as there are operands more
than operators.
-/

namespace Calculator

open Token
open scoped List

namespace Postfix

/-- Only operators and functions are released from a stack. -/
theorem isOperand_of_mem_released {stack : List Pending} {token : Token}
    (h : token ∈ released stack) : token.isOperand = false := by
  obtain ⟨entry, -, htoken⟩ := List.mem_filterMap.mp h
  cases entry with
  | operator op => cases htoken; rfl
  | function f => cases htoken; rfl
  | bracket => cases htoken

/-- No operand waits on a stack. -/
@[simp]
theorem filter_isOperand_released (stack : List Pending) :
    (released stack).filter isOperand = [] := by
  rw [List.filter_eq_nil_iff]
  intro token hmem
  simp [isOperand_of_mem_released hmem]

/-- The operand that a step takes is released at once, and no other. -/
theorem Takes.filter_isOperand {stack after : List Pending} {token : Token} {out : List Token}
    (h : Takes stack token out after) : out.filter isOperand = [token].filter isOperand := by
  cases h with
  | operand hoperand => rfl
  | function f => rfl
  | opening => rfl
  | @closing above below hstack habove =>
    -- what a call releases has been waiting below
    have hcall : (call below).1.filter isOperand = [] := by
      have hreleased := filter_isOperand_released below
      rw [← call_released, List.filter_append] at hreleased
      exact (List.append_eq_nil_iff.mp hreleased).1
    rw [List.filter_append, filter_isOperand_released, hcall]
    rfl
  | @operator op ops below hstack htight hloose =>
    rw [← released_operators, filter_isOperand_released]
    rfl

/-- A run releases the operands that it takes, in their order. -/
theorem Runs.filter_isOperand {stack after : List Pending} {tokens out : List Token}
    (h : Runs stack tokens out after) : out.filter isOperand = tokens.filter isOperand := by
  induction h with
  | nil _ => rfl
  | @cons _ _ _ token tokens out later first _ ih =>
    calc (out ++ later).filter isOperand
      _ = out.filter isOperand ++ later.filter isOperand := List.filter_append ..
      _ = [token].filter isOperand ++ tokens.filter isOperand := by rw [first.filter_isOperand, ih]
      _ = (token :: tokens).filter isOperand := by rw [← List.filter_append, List.singleton_append]

/-- In postfix order the operands stand as they were written. -/
theorem filter_isOperand_of_ofTokens {tokens rpn : List Token} (h : ofTokens tokens = .ok rpn) :
    rpn.filter isOperand = tokens.filter isOperand := by
  obtain ⟨out, stack, hruns, -, rfl⟩ := ofTokens_eq_ok_iff.mp h
  rw [List.filter_append, filter_isOperand_released, List.append_nil, hruns.filter_isOperand]

/-- There are no brackets in postfix order. -/
theorem isBracket_of_mem_ofTokens {tokens rpn : List Token} (h : ofTokens tokens = .ok rpn)
    {token : Token} (hmem : token ∈ rpn) : token.isBracket = false := by
  have hkept : token ∈ unbracketed tokens := (perm_of_ofTokens h).mem_iff.mp hmem
  simpa using (List.mem_filter.mp hkept).2

end Postfix

namespace StackMachine

/-- No run fails for the number of values that are left at the end. -/
theorem run_ne_countMismatch {b : Bindings} {stack : List Float} {tokens : List Token}
    (count : Nat) : run b stack tokens ≠ .error (.countMismatch count) := by
  intro herror
  obtain ⟨token, -, values, hfails⟩ := exists_fails_of_run herror
  cases hfails

/-- The count that an evaluation fails with is the number of values that its run leaves. -/
theorem run_of_countMismatch {b : Bindings} {rpn : List Token} {count : Nat}
    (h : evaluate b rpn = .error (.countMismatch count)) :
    ∃ stack, run b [] rpn = .ok stack ∧ stack.length = count := by
  rcases Except.bind_eq_error_iff.mp h with hrun | ⟨stack, hrun, hlast⟩
  · exact absurd hrun (run_ne_countMismatch count)
  · refine ⟨stack, hrun, ?_⟩
    cases stack with
    | nil => cases hlast; rfl
    | cons x stack =>
      cases stack with
      | nil => cases hlast
      | cons y rest => cases hlast; rfl

/-- The count that an evaluation fails with is the number of operands less that of operators. -/
theorem operands_of_countMismatch {b : Bindings} {rpn : List Token} {count : Nat}
    (h : evaluate b rpn = .error (.countMismatch count)) :
    operands rpn = operators rpn + count := by
  obtain ⟨stack, hrun, hcount⟩ := run_of_countMismatch h
  have hlength := length_of_run hrun
  rw [List.length_nil] at hlength
  omega

end StackMachine

/-- The conversion neither loses nor adds a token other than a bracket, however malformed the tokens
are, and leaves the operands in their order. If the result has a value, exactly one operand more
than operators was written; if it fails because a number of values other than one is left, that is
the number of operands that were written less the number of operators. -/
theorem conversion_conserves {tokens rpn : List Token} (hrpn : Postfix.ofTokens tokens = .ok rpn) :
    rpn ~ unbracketed tokens ∧ (∀ token ∈ rpn, token.isBracket = false) ∧
      rpn.filter isOperand = tokens.filter isOperand ∧
      ∀ b : Bindings,
        (∀ value, StackMachine.evaluate b rpn = .ok value →
          operands tokens = operators tokens + 1) ∧
        ∀ count, StackMachine.evaluate b rpn = .error (.countMismatch count) →
          (count : Int) = operands tokens - operators tokens := by
  refine ⟨Postfix.perm_of_ofTokens hrpn, fun token => Postfix.isBracket_of_mem_ofTokens hrpn,
    Postfix.filter_isOperand_of_ofTokens hrpn, ?_⟩
  intro b
  constructor
  · intro value hvalue
    exact operands_of_value hrpn hvalue
  · intro count herror
    have hcount := StackMachine.operands_of_countMismatch herror
    have hoperands := Postfix.operands_of_ofTokens hrpn
    have hoperators := Postfix.operators_of_ofTokens hrpn
    omega

/-- A function in front of a product whose right operand begins with two operands side by side: all
but the brackets is kept, the operands in their order, and two values are left. -/
theorem conversion_conserves_surplus :
    let b := Bindings.ofList [("a", 1.0), ("b", 2.0), ("c", 3.0), ("d", 4.0)]
    let tokens := [.function .sin, .name "a", .operator .mul, .opening, .name "b", .name "c",
      .operator .sub, .name "d", .closing]
    let rpn := [.name "a", .name "b", .name "c", .name "d", .operator .sub, .operator .mul,
      .function .sin]
    Postfix.ofTokens tokens = .ok rpn ∧ rpn ~ unbracketed tokens ∧
      rpn.filter isOperand = tokens.filter isOperand ∧
      StackMachine.evaluate b rpn = .error (.countMismatch 2) ∧
      (2 : Int) = operands tokens - operators tokens := by
  intro b tokens rpn
  have hrpn : Postfix.ofTokens tokens = .ok rpn := rfl
  have herror : StackMachine.evaluate b rpn = .error (.countMismatch 2) := rfl
  obtain ⟨hperm, -, horder, hcounts⟩ := conversion_conserves hrpn
  exact ⟨hrpn, hperm, horder, herror, (hcounts b).2 2 herror⟩

end Calculator
