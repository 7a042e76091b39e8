import Calculator.Postfix
import Calculator.StackMachine
import Calculator.Token.Scan

/-!
# Expressions

An expression is a sequence of tokens whose brackets match, together with its postfix order. It
may still have no value: whether operators and operands fit is found out by evaluating it.
-/

namespace Calculator

namespace Token

/-- The name of a token that stands for a variable. -/
def variableName? : Token → Option String
  | name n => some n
  | _ => none

/-- The distinct variable names among tokens, in the order of their first appearance. -/
def variableNames (tokens : List Token) : List String :=
  (tokens.filterMap variableName?).eraseDups

end Token

/-- A well bracketed expression. -/
structure Expression where
  /-- The tokens in the order in which they are written. -/
  tokens : List Token
  /-- The tokens in postfix order, without brackets. -/
  rpn : List Token
  deriving DecidableEq

namespace Expression

/-- The expression that tokens write. -/
def ofTokens (tokens : List Token) : Except BracketError Expression := do
  Brackets.check tokens
  return ⟨tokens, ← Postfix.ofTokens tokens⟩

/-- The expression that a text writes. -/
def ofText (text : String) : Except BracketError Expression :=
  ofTokens (Token.scan text)

/-- The distinct variables of an expression, in the order of their first appearance. -/
def variableNames (x : Expression) : List String :=
  Token.variableNames x.tokens

/-- The value of an expression whose variables are bound. -/
def value (x : Expression) (b : Bindings) : Except EvalError Float :=
  StackMachine.evaluate b x.rpn

end Expression

end Calculator
