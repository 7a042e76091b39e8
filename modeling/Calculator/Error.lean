import Calculator.Number
import Calculator.Token.Basic

/-!
# Errors

An expression can fail at three points: its brackets do not match, a value for one of its
variables is not to be had, or its evaluation goes wrong. Reading and writing can fail too.
-/

namespace Calculator

/-- What can be wrong with brackets. -/
inductive BracketError where
  /-- The brackets do not match up. -/
  | unbalanced
  /-- A closing bracket has no opening one before it. -/
  | extraClosing
  /-- An opening bracket has no closing one behind it. -/
  | extraOpening
  deriving DecidableEq

/-- What can go wrong when a sequence in postfix order is evaluated. -/
inductive EvalError where
  /-- A variable has no value. -/
  | unboundVariable (name : String)
  /-- An operator finds fewer than two values. -/
  | missingOperand (op : Operator)
  /-- A function finds no value. -/
  | missingArgument (f : Builtin)
  /-- The right-hand operand of a division is zero, of either sign. -/
  | divisionByZero
  /-- The argument of a square root is negative. -/
  | negativeRoot (value : Float)
  /-- At the end there are `count` values instead of one. -/
  | countMismatch (count : Nat)
  /-- A number literal is not a numeral. -/
  | badLiteral (literal : String)
  deriving DecidableEq

/-- What can go wrong when something is read or written. -/
inductive Fault where
  /-- A line is not encoded in UTF-8. -/
  | invalidEncoding
  /-- The output takes no more bytes. -/
  | full
  /-- Any other cause, in its own words. -/
  | other (text : String)
  deriving DecidableEq

/-- Why a source of values has none for a variable, or why a binding is refused. -/
inductive SourceError where
  /-- The source does not know the variable. -/
  | unbound (name : String)
  /-- The input ended before the answer for the variable. -/
  | endOfInput (name : String)
  /-- The answer for the variable is not a numeral. -/
  | invalidValue (name answer : String)
  /-- A text is not a variable name, an equals sign and a numeral. -/
  | invalidBinding (binding : String)
  /-- Asking for the value or reading it failed. -/
  | fault (fault : Fault)
  deriving DecidableEq

/-- Why an expression has no value. -/
inductive Error where
  | brackets (error : BracketError)
  | evaluation (error : EvalError)
  | source (error : SourceError)
  deriving DecidableEq

/-- The text of a mismatch of brackets. -/
def BracketError.message : BracketError → String
  | unbalanced => "Error: unbalanced brackets"
  | extraClosing => "Error: extra closing bracket"
  | extraOpening => "Error: extra opening bracket"

/-- The text of a failed evaluation. -/
def EvalError.message : EvalError → String
  | unboundVariable name => "Error: no value bound for variable '" ++ name ++ "'"
  | missingOperand op =>
    "Error: not enough operands for the operator '" ++ String.singleton op.symbol ++ "'"
  | missingArgument f => "Error: not enough arguments for the function '" ++ f.name ++ "'"
  | divisionByZero => "Error: division by zero"
  | negativeRoot value => "Error: negative value under sqrt (" ++ Number.text value ++ ")"
  | countMismatch count =>
    "Error: operands count mismatch (" ++ toString count ++ " values left on the stack)"
  | badLiteral literal => "Error: invalid number literal '" ++ literal ++ "'"

/-- The text of a failure of input or output. -/
def Fault.message : Fault → String
  | invalidEncoding => "stream did not contain valid UTF-8"
  | full => "failed to write whole buffer"
  | other text => text

/-- The text of a refusal. -/
def SourceError.message : SourceError → String
  | unbound name => "Error: no value for variable '" ++ name ++ "'"
  | endOfInput name => "Error: input ended before a value for '" ++ name ++ "' was given"
  | invalidValue name answer =>
    "Error: invalid value '" ++ answer ++ "' for variable '" ++ name ++ "'"
  | invalidBinding binding =>
    "Error: invalid binding '" ++ binding ++ "', expected NAME=VALUE"
  | fault f => "Error: " ++ f.message

/-- The text of an error. -/
def Error.message : Error → String
  | brackets e => e.message
  | evaluation e => e.message
  | source e => e.message

/-- The word under which an error is logged. All refusals of a source have the same one. -/
def Error.kind : Error → String
  | brackets .unbalanced => "UnbalancedBrackets"
  | brackets .extraClosing => "ExtraClosingBracket"
  | brackets .extraOpening => "ExtraOpeningBracket"
  | evaluation (.unboundVariable _) => "UnboundVariable"
  | evaluation (.missingOperand _) => "InsufficientOperands"
  | evaluation (.missingArgument _) => "InsufficientArguments"
  | evaluation .divisionByZero => "DivisionByZero"
  | evaluation (.negativeRoot _) => "NegativeSqrt"
  | evaluation (.countMismatch _) => "OperandCountMismatch"
  | evaluation (.badLiteral _) => "InvalidNumber"
  | source _ => "ProviderRejected"

end Calculator
