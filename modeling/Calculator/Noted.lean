import Calculator.Expression
import Calculator.Journal

/-!
# Noted stages

The stages from a text to a value, each with the events that it writes into the journal. A stage
that fails notes nothing at its end. Where nothing is written, the stages are the plain functions.
-/

namespace Calculator.Noted

variable {m : Type → Type} [Monad m] [Journal m]

/-- Cuts a text into tokens and notes each dropped character. -/
def scan (text : String) : m (List Token) := do
  for c in (Piece.ofText text).filterMap Piece.dropped? do
    Journal.note (.dropped c)
  let tokens := Token.scan text
  Journal.note (.scanned text tokens.length)
  return tokens

/-- Puts tokens into postfix order. -/
def convert (tokens : List Token) : m (Except BracketError (List Token)) := do
  match Postfix.ofTokens tokens with
  | .error e => return .error e
  | .ok rpn =>
    Journal.note (.converted (Token.spaced rpn))
    return .ok rpn

/-- Reads a text as an expression. The brackets are checked before anything is converted. -/
def read (text : String) : m (Except BracketError Expression) := do
  let tokens ← scan text
  match Brackets.check tokens with
  | .error e => return .error e
  | .ok () =>
    match ← convert tokens with
    | .error e => return .error e
    | .ok rpn => return .ok ⟨tokens, rpn⟩

/-- Evaluates a sequence in postfix order. -/
def evaluate (b : Bindings) (rpn : List Token) : m (Except EvalError Float) := do
  match StackMachine.evaluate b rpn with
  | .error e => return .error e
  | .ok value =>
    Journal.note (.evaluated value)
    return .ok value

variable [LawfulMonad m] [QuietJournal m]

/-- Where nothing is written, scanning is a plain function. -/
theorem scan_eq (text : String) : (scan text : m _) = pure (Token.scan text) := by
  simp [scan, QuietJournal.note_eq]

/-- Where nothing is written, converting is a plain function. -/
theorem convert_eq (tokens : List Token) :
    (convert tokens : m _) = pure (Postfix.ofTokens tokens) := by
  unfold convert
  cases Postfix.ofTokens tokens <;> simp [QuietJournal.note_eq]

/-- Where nothing is written, reading is a plain function. -/
theorem read_eq (text : String) : (read text : m _) = pure (Expression.ofText text) := by
  simp only [read, scan_eq, convert_eq, pure_bind, Expression.ofText, Expression.ofTokens]
  cases Brackets.check (Token.scan text) with
  | error e => rfl
  | ok _ => cases Postfix.ofTokens (Token.scan text) <;> rfl

/-- Where nothing is written, evaluating is a plain function. -/
theorem evaluate_eq (b : Bindings) (rpn : List Token) :
    (evaluate b rpn : m _) = pure (StackMachine.evaluate b rpn) := by
  unfold evaluate
  cases StackMachine.evaluate b rpn <;> simp [QuietJournal.note_eq]

end Calculator.Noted
