import Calculator.Bindings
import Calculator.Error

/-!
# The journal

What happens on the way to a result is noted in a journal as events. An event has a level, a
target that tells which part of the calculator noted it, a message and named fields. Computations
work in any monad with a journal; the one in which nothing is written leaves plain functions.
-/

namespace Calculator

/-- How important an event is, the most important level first. -/
inductive Level where
  | error
  | warn
  | info
  | debug
  | trace
  deriving DecidableEq

namespace Level

/-- The level as it stands in the log. -/
def text : Level → String
  | error => "ERROR"
  | warn => "WARN"
  | info => "INFO"
  | debug => "DEBUG"
  | trace => "TRACE"

/-- The number of a level; a log shows more with a higher one. -/
def rank : Level → Nat
  | error => 1
  | warn => 2
  | info => 3
  | debug => 4
  | trace => 5

end Level

/-- Something worth noting. -/
inductive Event where
  /-- The scanner met a character at which no token starts. -/
  | dropped (c : Char)
  /-- A text was cut into tokens; the text is the one given, with its blanks. -/
  | scanned (source : String) (count : Nat)
  /-- Tokens were put into postfix order. -/
  | converted (rpn : String)
  /-- All variables of an expression have a value. -/
  | bound (bindings : Bindings)
  /-- A variable has its value from the presets. -/
  | presetUsed (name : String) (value : Float)
  /-- An evaluation came to a value. -/
  | evaluated (value : Float)
  /-- An expression has no value and the caller does not get the error. -/
  | rejected (source : String) (error : Error)
  /-- A line of a session has no value. -/
  | lineFailed (source : String) (error : Error)
  /-- The user left the interactive loop. -/
  | exitRequested
  /-- A batch came to its end; the counts are those of the whole session. -/
  | batchDone (evaluated failed : Nat)
  /-- A failure of input or output ended the program. -/
  | broken (fault : Fault)

/-- The content of a field of an event. -/
inductive Field where
  | text (text : String)
  | count (count : Nat)
  | table (bindings : Bindings)

namespace Event

/-- The level of an event. -/
def level : Event → Level
  | dropped _ => .trace
  | scanned _ _ | converted _ | bound _ | presetUsed _ _ | evaluated _ | lineFailed _ _ => .debug
  | exitRequested | batchDone _ _ => .info
  | rejected _ _ => .warn
  | broken _ => .error

/-- The message of an event. -/
def message : Event → String
  | dropped _ => "ignoring unrecognized input"
  | scanned _ _ => "tokenized expression"
  | converted _ => "converted to postfix"
  | bound _ => "bound variables"
  | presetUsed _ _ => "using preset value"
  | evaluated _ => "evaluated postfix"
  | rejected _ error => error.message
  | lineFailed _ _ => "expression failed"
  | exitRequested => "exit requested"
  | batchDone _ _ => "batch done"
  | broken _ => "i/o failure"

/-- The fields of an event. -/
def fields : Event → List (String × Field)
  | dropped c => [("dropped", .text (String.singleton c))]
  | scanned source count => [("expression", .text source), ("count", .count count)]
  | converted rpn => [("postfix", .text rpn)]
  | bound bindings => [("bindings", .table bindings)]
  | presetUsed name value => [("name", .text name), ("value", .text (Number.text value))]
  | evaluated value => [("result", .text (Number.text value))]
  | rejected source error | lineFailed source error =>
    [("expression", .text source), ("kind", .text error.kind)]
  | exitRequested => []
  | batchDone total failed => [("evaluated", .count total), ("failed", .count failed)]
  | broken fault => [("error", .text fault.message)]

/-- The part of the calculator that notes an event, as a log filter names it. -/
def target : Event → String
  | dropped _ | scanned _ _ => "postfixer::interpreter::lexer"
  | converted _ => "postfixer::interpreter::converter"
  | evaluated _ => "postfixer::interpreter::evaluator::core"
  | presetUsed _ _ => "postfixer::interpreter::provider"
  | lineFailed _ _ | exitRequested | batchDone _ _ => "postfixer::session"
  | bound _ | rejected _ _ | broken _ => "postfixer"

end Event

/-- A monad in which events can be noted. -/
class Journal (m : Type → Type) where
  /-- Notes an event. -/
  note : Event → m Unit

/-- A journal in which nothing is written. -/
class QuietJournal (m : Type → Type) [Monad m] [Journal m] : Prop where
  note_eq (event : Event) : Journal.note event = (pure () : m Unit)

/-- Plain computations have a journal, in which nothing is written. -/
instance : Journal Id := ⟨fun _ => pure ()⟩

instance : QuietJournal Id := ⟨fun _ => rfl⟩

/-- Computations with a state write into the journal below. -/
instance {σ : Type} {m : Type → Type} [Monad m] [Journal m] : Journal (StateT σ m) :=
  ⟨fun event => StateT.lift (Journal.note event)⟩

/-- With nothing written below, nothing is written by computations with a state. -/
instance {σ : Type} {m : Type → Type} [Monad m] [LawfulMonad m] [Journal m] [QuietJournal m] :
    QuietJournal (StateT σ m) where
  note_eq event := by
    show StateT.lift (Journal.note event) = _
    rw [QuietJournal.note_eq]
    funext s
    exact pure_bind () fun answer => pure (answer, s)

/-- A value together with the events noted on the way to it, in order. -/
structure Recorded (α : Type) where
  value : α
  events : List Event

namespace Recorded

instance : Monad Recorded where
  pure value := ⟨value, []⟩
  bind x f := ⟨(f x.value).value, x.events ++ (f x.value).events⟩

instance : Journal Recorded := ⟨fun event => ⟨(), [event]⟩⟩

end Recorded

end Calculator
