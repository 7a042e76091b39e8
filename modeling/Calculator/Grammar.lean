import Calculator.Tree

/-!
# The grammar of expressions

An expression is a number literal, a variable, a function in front of a bracketed expression, a
bracketed expression, or two expressions with an operator between them. Precedence and grouping to
the left choose one tree for each: an operand of an operator may only be written without brackets
if it binds tightly enough for its side.
-/

namespace Calculator

/-- The token sequences that are expressions. -/
inductive Grammatical : List Token → Prop where
  | number (literal : String) : Grammatical [.number literal]
  | name (name : String) : Grammatical [.name name]
  | call (f : Builtin) {tokens : List Token} (argument : Grammatical tokens) :
    Grammatical (.function f :: .opening :: tokens ++ [.closing])
  | group {tokens : List Token} (inner : Grammatical tokens) :
    Grammatical (.opening :: tokens ++ [.closing])
  | binary (op : Operator) {left right : List Token} (hl : Grammatical left)
    (hr : Grammatical right) : Grammatical (left ++ .operator op :: right)

/-- Tokens write a tree where only operators of at least a given precedence may stand outside
brackets. The right operand of an operator has to bind more tightly than the operator itself, so
operators of equal precedence group to the left. Any brackets may be doubled or superfluous. -/
inductive Written : Nat → Tree → List Token → Prop where
  | number (level : Nat) (literal : String) : Written level (.number literal) [.number literal]
  | name (level : Nat) (name : String) : Written level (.name name) [.name name]
  | call (level : Nat) (f : Builtin) {t : Tree} {tokens : List Token}
    (argument : Written 0 t tokens) :
    Written level (.call f t) (.function f :: .opening :: tokens ++ [.closing])
  | group (level : Nat) {t : Tree} {tokens : List Token} (inner : Written 0 t tokens) :
    Written level t (.opening :: tokens ++ [.closing])
  | binary {level : Nat} (op : Operator) {l r : Tree} {left right : List Token}
    (tight : level ≤ op.precedence) (hl : Written op.precedence l left)
    (hr : Written (op.precedence + 1) r right) :
    Written level (.binary op l r) (left ++ .operator op :: right)

end Calculator
