import Calculator.Brackets

/-!
# Postfix order

In postfix order an operator follows its two operands and a function its argument, so brackets
are not needed. Operands pass through unchanged and in order; operators, functions and opening
brackets wait on a stack until what they apply to is complete.
-/

namespace Calculator.Postfix

/-- What waits on the stack. -/
inductive Pending where
  | operator (op : Operator)
  | function (f : Builtin)
  | bracket
  deriving DecidableEq

/-- Releases the operators on top that bind at least as tightly as `op`, which makes operators of
equal precedence group to the left. -/
def release (op : Operator) : List Pending → List Token × List Pending
  | .operator top :: rest =>
    if op.precedence ≤ top.precedence then
      let (out, below) := release op rest
      (.operator top :: out, below)
    else ([], .operator top :: rest)
  | stack => ([], stack)

/-- Releases everything down to the last opening bracket, and a function right below it, whose
argument the bracket held. -/
def close : List Pending → Except BracketError (List Token × List Pending)
  | [] => .error .extraClosing
  | .bracket :: .function f :: rest => .ok ([.function f], rest)
  | .bracket :: rest => .ok ([], rest)
  | .operator op :: rest => do
    let (out, below) ← close rest
    return (.operator op :: out, below)
  | .function f :: rest => do
    let (out, below) ← close rest
    return (.function f :: out, below)

/-- Takes one token: what it releases, and the stack behind it. -/
def step (stack : List Pending) : Token → Except BracketError (List Token × List Pending)
  | .number literal => .ok ([.number literal], stack)
  | .name name => .ok ([.name name], stack)
  | .function f => .ok ([], .function f :: stack)
  | .opening => .ok ([], .bracket :: stack)
  | .closing => close stack
  | .operator op =>
    let (out, below) := release op stack
    .ok (out, .operator op :: below)

/-- Takes a sequence of tokens: all that they release, and the stack behind them. -/
def run (stack : List Pending) : List Token → Except BracketError (List Token × List Pending)
  | [] => .ok ([], stack)
  | token :: tokens => do
    let (out, stack) ← step stack token
    let (later, stack) ← run stack tokens
    return (out ++ later, stack)

/-- The tokens of a sequence can be taken in two parts. -/
theorem run_append (stack : List Pending) (first second : List Token) :
    run stack (first ++ second) = (do
      let (out, stack) ← run stack first
      let (later, stack) ← run stack second
      return (out ++ later, stack)) := by
  induction first generalizing stack with
  | nil =>
    cases h : run stack second <;> simp [run, h, bind, Except.bind, pure, Except.pure]
  | cons token tokens ih =>
    simp only [List.cons_append, run, bind, Except.bind, pure, Except.pure]
    cases step stack token with
    | error e => rfl
    | ok taken =>
      simp only [ih, bind, Except.bind, pure, Except.pure]
      cases run taken.2 tokens with
      | error e => rfl
      | ok more =>
        simp only
        cases run more.2 second <;> simp

/-- Releases all that still waits at the end. -/
def drain : List Pending → Except BracketError (List Token)
  | [] => .ok []
  | .bracket :: _ => .error .extraOpening
  | .operator op :: rest => do return .operator op :: (← drain rest)
  | .function f :: rest => do return .function f :: (← drain rest)

/-- Puts tokens into postfix order. -/
def ofTokens (tokens : List Token) : Except BracketError (List Token) := do
  let (out, stack) ← run [] tokens
  return out ++ (← drain stack)

end Calculator.Postfix
