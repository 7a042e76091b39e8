import Calculator.Noted
import Calculator.ValueSource

/-!
# Calculations

A calculation reads a text, asks a source for the value of each variable once, and evaluates. No
value is asked for if the brackets do not match, and the evaluation starts only when every
variable has a value.
-/

namespace Calculator

variable {m : Type → Type} [Monad m] [Journal m]

namespace Expression

/-- Asks a source for every variable of an expression. -/
def bindFrom (x : Expression) (source : ValueSource m) : m (Except SourceError Bindings) := do
  match ← source.collect .empty x.variableNames with
  | .error e => return .error e
  | .ok b =>
    Journal.note (.bound b)
    return .ok b

/-- Asks a source for every variable of an expression and evaluates it. -/
def evaluateFrom (x : Expression) (source : ValueSource m) : m (Except Error Float) := do
  match ← x.bindFrom source with
  | .error e => return .error (.source e)
  | .ok b => return (← Noted.evaluate b x.rpn).mapError .evaluation

end Expression

/-- The value of the expression that a text writes. -/
def calculate (text : String) (source : ValueSource m) : m (Except Error Float) := do
  match ← Noted.read text with
  | .error e => return .error (.brackets e)
  | .ok x => x.evaluateFrom source

/-- The value of the expression that a text writes, if it has one; the error is only noted. -/
def calculate? (text : String) (source : ValueSource m) : m (Option Float) := do
  match ← calculate text source with
  | .ok value => return some value
  | .error e =>
    Journal.note (.rejected text e)
    return none

end Calculator
