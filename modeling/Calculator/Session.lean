import Calculator.Calculation

/-!
# Sessions

A session evaluates one line after the other, writes the value or the error of each, and counts.
Its lines come from a list, or from the terminal that also answers the prompts.
-/

namespace Calculator

/-- How a session treats a line. -/
structure Session.Options where
  /-- Values that are known from the start. -/
  presets : Bindings := .empty
  /-- Whether the terminal is asked for other variables. -/
  prompt : Bool := true
  /-- Whether the postfix order is written before each outcome. -/
  showRpn : Bool := false

/-- What a session has done so far. -/
structure Session.Summary where
  /-- How many expressions were evaluated, with or without success. -/
  evaluated : Nat := 0
  /-- How many expressions were reported as failed. -/
  failed : Nat := 0
  deriving DecidableEq

/-- A session. -/
structure Session where
  options : Session.Options := {}
  summary : Session.Summary := {}

namespace Session

variable {m : Type → Type} [Monad m] [Journal m] [Terminal m]

/-- Counts an expression. -/
def countEvaluated (s : Session) : Session :=
  { s with summary.evaluated := s.summary.evaluated + 1 }

/-- Counts a failure. -/
def countFailed (s : Session) : Session :=
  { s with summary.failed := s.summary.failed + 1 }

/-- Where the values of variables come from. Without prompts only the presets are known. -/
def source (s : Session) : ValueSource m :=
  if s.options.prompt then .withPresets s.options.presets .prompting
  else .ofBindings s.options.presets

/-- Counts, notes and writes the error of a line. -/
def writeError (s : Session) (text : String) (error : Error) :
    m (Session × Except Fault (Option Float)) := do
  Journal.note (.lineFailed text error)
  let outcome ← Terminal.write (error.message ++ "\n")
  return (s.countFailed, outcome.map fun () => none)

/-- Writes the outcome of a line. A failure of the terminal is not written but returned. -/
def writeOutcome (s : Session) (text : String) :
    Except Error Float → m (Session × Except Fault (Option Float))
  | .ok value => do
    let outcome ← Terminal.write ("=> " ++ Number.text value ++ "\n")
    return (s, outcome.map fun () => some value)
  | .error (.source (.fault fault)) => return (s, .error fault)
  | .error error => s.writeError text error

/-- Writes the postfix order of an expression if the options ask for it. -/
def writeRpn (s : Session) (x : Expression) : m (Except Fault Unit) :=
  if s.options.showRpn then Terminal.write ("postfix: " ++ Token.spaced x.rpn ++ "\n")
  else return .ok ()

/-- Evaluates one line: its value, or none if its error was written. -/
def respond (s : Session) (text : String) :
    m (Session × Except Fault (Option Float)) := do
  let s := s.countEvaluated
  match ← Noted.read text with
  | .error e => s.writeError text (.brackets e)
  | .ok x =>
    match ← s.writeRpn x with
    | .error fault => return (s, .error fault)
    | .ok () => s.writeOutcome text (← x.evaluateFrom s.source)

/-- Whether a trimmed line of a batch is no expression: it is empty or starts with `#`. -/
def isSkipped (text : String) : Bool :=
  text.toList.head?.all fun c => c == '#'

/-- Evaluates the lines of a batch, up to the first failure of the terminal. -/
def batch (s : Session) : List String → m (Session × Except Fault Unit)
  | [] => do
    Journal.note (.batchDone s.summary.evaluated s.summary.failed)
    return (s, .ok ())
  | line :: lines => do
    let text := Text.trim line
    if isSkipped text then s.batch lines
    else
      match ← s.respond text with
      | (s, .error fault) => return (s, .error fault)
      | (s, .ok _) => s.batch lines

/-- Whether a trimmed line ends the interactive loop: it says `exit` in any letter case. -/
def isExit (text : String) : Bool :=
  text.toList.map Char.toLower == ['e', 'x', 'i', 't']

/-- What comes after a turn of the interactive loop. -/
inductive Turn where
  | next (s : Session)
  | stop (s : Session) (outcome : Except Fault Unit)

/-- One turn of the interactive loop: it reads a line and evaluates it, unless it is blank. -/
def turn (s : Session) : m Turn := do
  match ← Terminal.readLine with
  | .error fault => return .stop s (.error fault)
  | .ok none => return .stop s (.ok ())
  | .ok (some line) =>
    let text := Text.trim line
    if text.isEmpty then return .next s
    else if isExit text then
      Journal.note .exitRequested
      return .stop s (.ok ())
    else
      match ← s.respond text with
      | (s, .error fault) => return .stop s (.error fault)
      | (s, .ok _) => return .next s

/-- At most `n` turns of the interactive loop. -/
def turns : Nat → Session → m (Session × Except Fault Unit)
  | 0, s => return (s, .ok ())
  | n + 1, s => do
    match ← s.turn with
    | .next s => turns n s
    | .stop s outcome => return (s, outcome)

end Session

/-- The interactive loop on a console. Each turn but the last takes a line, so there are no more
turns than lines, and one at the end of the input. -/
def Session.interact {m : Type → Type} [Monad m] [Journal m] (s : Session) :
    StateT Console m (Session × Except Fault Unit) := do
  turns ((← get).lineCount + 1) s

end Calculator
