/-!
# Tokens

An expression is a sequence of tokens: number literals, variable names, the four operators, the
built-in functions and brackets.
-/

namespace Calculator

/-- The binary operators. -/
inductive Operator where
  | add
  | sub
  | mul
  | div
  deriving DecidableEq

namespace Operator

/-- How tightly an operator binds; the higher, the tighter. -/
def precedence : Operator → Nat
  | add | sub => 1
  | mul | div => 2

/-- The character that an operator is written with. -/
def symbol : Operator → Char
  | add => '+'
  | sub => '-'
  | mul => '*'
  | div => '/'

/-- The operator that a character writes. -/
def ofSymbol? : Char → Option Operator
  | '+' => some add
  | '-' => some sub
  | '*' => some mul
  | '/' => some div
  | _ => none

/-- The operator that a text of one character writes. -/
def ofText? (text : String) : Option Operator :=
  match text.toList with
  | [c] => ofSymbol? c
  | _ => none

/-- An operator is read back from its symbol, and no other operator has that symbol. -/
theorem ofSymbol?_eq_some_iff {c : Char} {op : Operator} :
    ofSymbol? c = some op ↔ c = op.symbol := by
  constructor
  · intro h
    unfold ofSymbol? at h
    split at h <;> cases h <;> rfl
  · rintro rfl
    cases op <;> rfl

end Operator

/-- The built-in functions of one argument. -/
inductive Builtin where
  | sin
  | cos
  | sqrt
  deriving DecidableEq

namespace Builtin

/-- The name that a function is called by. -/
def name : Builtin → String
  | sin => "sin"
  | cos => "cos"
  | sqrt => "sqrt"

/-- All built-in functions. -/
def all : List Builtin :=
  [sin, cos, sqrt]

/-- The function with a name, in exactly the letter case of the name. -/
def ofName? (name : String) : Option Builtin :=
  all.find? fun f => f.name == name

/-- A function is read back from its name, and no other function has that name. -/
theorem ofName?_eq_some_iff {name : String} {f : Builtin} :
    ofName? name = some f ↔ name = f.name := by
  constructor
  · intro h
    have := List.find?_some h
    simpa using (eq_of_beq this).symm
  · rintro rfl
    cases f <;> rfl

end Builtin

/-- A token. -/
inductive Token where
  /-- A number literal; it is read only when its value is needed. -/
  | number (literal : String)
  /-- The name of a variable. -/
  | name (name : String)
  | operator (op : Operator)
  | function (f : Builtin)
  | opening
  | closing
  deriving DecidableEq

namespace Token

/-- The characters that a token is written with. -/
def text : Token → String
  | number literal => literal
  | name n => n
  | operator op => String.singleton op.symbol
  | function f => f.name
  | opening => "("
  | closing => ")"

/-- The texts of tokens with a single space between neighbours. -/
def spaced (tokens : List Token) : String :=
  " ".intercalate (tokens.map text)

/-- An operand is a token that stands for a value by itself. -/
def isOperand : Token → Bool
  | number _ | name _ => true
  | _ => false

/-- The opening and the closing bracket. -/
def isBracket : Token → Bool
  | opening | closing => true
  | _ => false

end Token

end Calculator
