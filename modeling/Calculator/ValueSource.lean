import Calculator.Journal
import Calculator.Terminal
import Calculator.Text.Blank
import Calculator.Token.Lexical

/-!
# Sources of values

A source is asked for the value of a variable by name and answers with a number or a refusal. It
may be a table, a person at a terminal, or a table in front of another source.
-/

namespace Calculator

/-- Answers for the value of a variable. -/
abbrev ValueSource (m : Type → Type) := String → m (Except SourceError Float)

namespace ValueSource

variable {m : Type → Type} [Monad m]

/-- Knows the names of a table and refuses all others. -/
def ofBindings (b : Bindings) : ValueSource m := fun name =>
  match b.get? name with
  | some value => return .ok value
  | none => return .error (.unbound name)

/-- Asks another source only for names that have no preset value. -/
def withPresets [Journal m] (presets : Bindings) (fallback : ValueSource m) : ValueSource m :=
  fun name => do
    match presets.get? name with
    | some value =>
      Journal.note (.presetUsed name value)
      return .ok value
    | none => fallback name

/-- What a terminal shows before it reads the value of a variable. -/
def promptText (name : String) : String :=
  "Enter the value of '" ++ name ++ "': "

/-- What a line says as the answer for a variable. -/
def readAnswer (name line : String) : Except SourceError Float :=
  let answer := Text.trim line
  match Number.parse? answer with
  | some value => .ok value
  | none => .error (.invalidValue name answer)

/-- Writes a prompt and takes the next line as the answer. -/
def prompting [Terminal m] : ValueSource m := fun name => do
  match ← Terminal.write (promptText name) with
  | .error fault => return .error (.fault fault)
  | .ok () =>
    match ← Terminal.readLine with
    | .error fault => return .error (.fault fault)
    | .ok none => return .error (.endOfInput name)
    | .ok (some line) => return readAnswer name line

/-- Asks a source for names in order and adds the answers to bindings, up to the first refusal. -/
def collect (source : ValueSource m) (b : Bindings) :
    List String → m (Except SourceError Bindings)
  | [] => return .ok b
  | name :: names => do
    match ← source name with
    | .error e => return .error e
    | .ok value => source.collect (b.insert name value) names

end ValueSource

namespace Bindings

/-- Reads a binding: a variable name, an equals sign and a numeral, with blanks around the name
and the numeral. The first equals sign counts. -/
def parseEntry (text : String) : Except SourceError (String × Float) :=
  let cs := text.toList
  let name := String.ofList (Text.trimChars (cs.takeWhile fun c => c != '='))
  match cs.dropWhile fun c => c != '=' with
  | [] => .error (.invalidBinding text)
  | _ :: rest =>
    if Lexical.namesVariable name then
      match Number.parse? (String.ofList (Text.trimChars rest)) with
      | some value => .ok (name, value)
      | none => .error (.invalidBinding text)
    else .error (.invalidBinding text)

end Bindings

end Calculator
