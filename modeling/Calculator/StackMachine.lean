import Calculator.Bindings
import Calculator.Error

/-!
# The stack machine

A sequence in postfix order is evaluated on one stack of values: an operand pushes its value, an
operator or a function replaces its operands by its result.
-/

namespace Calculator

/-- Applies an operator to its left and its right operand. -/
def Operator.apply (op : Operator) (a b : Float) : Except EvalError Float :=
  match op with
  | .add => .ok (a + b)
  | .sub => .ok (a - b)
  | .mul => .ok (a * b)
  | .div => if b == 0.0 then .error .divisionByZero else .ok (a / b)

/-- Applies a built-in function; angles are in radians. -/
def Builtin.apply (f : Builtin) (x : Float) : Except EvalError Float :=
  match f with
  | .sin => .ok x.sin
  | .cos => .ok x.cos
  | .sqrt => if x < 0.0 then .error (.negativeRoot x) else .ok x.sqrt

namespace StackMachine

/-- The value of a number literal. -/
def literalValue (literal : String) : Except EvalError Float :=
  match Number.parse? literal with
  | some value => .ok value
  | none => .error (.badLiteral literal)

/-- The value of a variable. -/
def variableValue (b : Bindings) (name : String) : Except EvalError Float :=
  match b.get? name with
  | some value => .ok value
  | none => .error (.unboundVariable name)

/-- Takes one token; the top of the stack is its head. Brackets do nothing. -/
def step (b : Bindings) (stack : List Float) : Token → Except EvalError (List Float)
  | .number literal => do return (← literalValue literal) :: stack
  | .name name => do return (← variableValue b name) :: stack
  | .operator op =>
    match stack with
    | y :: x :: rest => do return (← op.apply x y) :: rest
    | _ => .error (.missingOperand op)
  | .function f =>
    match stack with
    | x :: rest => do return (← f.apply x) :: rest
    | [] => .error (.missingArgument f)
  | .opening | .closing => .ok stack

/-- Takes a sequence of tokens. -/
def run (b : Bindings) (stack : List Float) (tokens : List Token) :
    Except EvalError (List Float) :=
  tokens.foldlM (step b) stack

/-- The tokens of a sequence can be taken in two parts. -/
theorem run_append (b : Bindings) (stack : List Float) (first second : List Token) :
    run b stack (first ++ second) = (do run b (← run b stack first) second) := by
  simp [run, List.foldlM_append]

/-- The value of a sequence in postfix order: the only one that is left at the end. -/
def evaluate (b : Bindings) (rpn : List Token) : Except EvalError Float := do
  match ← run b [] rpn with
  | [value] => return value
  | stack => throw (.countMismatch stack.length)

end StackMachine

end Calculator
