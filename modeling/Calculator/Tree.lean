import Calculator.StackMachine

/-!
# Expression trees

A tree is what an expression means: a literal, a variable, a function of one tree, or an operator
between two. Its value is found from the leaves up, the left operand first. Its postorder lists
the nodes with the operands in front, and the stack machine evaluates that list to the same value
or the same error.
-/

namespace Calculator

/-- An expression tree. -/
inductive Tree where
  | number (literal : String)
  | name (name : String)
  | call (f : Builtin) (argument : Tree)
  | binary (op : Operator) (left right : Tree)
  deriving DecidableEq

namespace Tree

/-- The nodes of a tree as tokens, the operands of each node in front of it. -/
def postorder : Tree → List Token
  | number literal => [.number literal]
  | name n => [.name n]
  | call f argument => argument.postorder ++ [.function f]
  | binary op left right => left.postorder ++ right.postorder ++ [.operator op]

/-- The value of a tree, or the error of its first node that fails. -/
def value (b : Bindings) : Tree → Except EvalError Float
  | number literal => StackMachine.literalValue literal
  | name n => StackMachine.variableValue b n
  | call f argument => do f.apply (← argument.value b)
  | binary op left right => do
    let x ← left.value b
    let y ← right.value b
    op.apply x y

/-- The stack machine leaves the value of a tree on top of whatever was there before. -/
theorem run_postorder (b : Bindings) (t : Tree) (stack : List Float) :
    StackMachine.run b stack t.postorder = (do return (← t.value b) :: stack) := by
  induction t generalizing stack with
  | number literal => simp [postorder, value, StackMachine.run, StackMachine.step]
  | name n => simp [postorder, value, StackMachine.run, StackMachine.step]
  | call f argument ih =>
    rw [postorder, StackMachine.run_append, ih]
    simp [value, StackMachine.run, StackMachine.step]
  | binary op left right ihl ihr =>
    simp only [postorder, StackMachine.run_append, ihl, ihr, bind_assoc, pure_bind]
    simp [value, StackMachine.run, StackMachine.step]

/-- The stack machine evaluates the postorder of a tree to the value of the tree. -/
theorem evaluate_postorder (b : Bindings) (t : Tree) :
    StackMachine.evaluate b t.postorder = t.value b := by
  rw [StackMachine.evaluate, run_postorder]
  cases t.value b <;> rfl

end Tree

end Calculator
