import Calculator.Error

/-!
# Matching brackets

Brackets match if every closing bracket has an opening one before it and none is left open.
-/

namespace Calculator.Brackets

/-- The number of brackets left open behind a sequence that starts inside `depth` of them; none
if a closing bracket finds no open one. -/
def depthAfter? : Nat → List Token → Option Nat
  | depth, [] => some depth
  | depth, .opening :: tokens => depthAfter? (depth + 1) tokens
  | depth, .closing :: tokens =>
    match depth with
    | 0 => none
    | outer + 1 => depthAfter? outer tokens
  | depth, _ :: tokens => depthAfter? depth tokens

/-- Whether the brackets of a sequence match. -/
def balanced (tokens : List Token) : Bool :=
  depthAfter? 0 tokens == some 0

/-- Refuses a sequence whose brackets do not match. -/
def check (tokens : List Token) : Except BracketError Unit :=
  if balanced tokens then .ok () else .error .unbalanced

end Calculator.Brackets
