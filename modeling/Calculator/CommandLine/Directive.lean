import Calculator.CommandLine.Pattern.Acceptance
import Calculator.Journal
import Calculator.Number
import Calculator.Text.Bytes
import Calculator.Token.Lexical

/-!
# Directives

A directive of a log filter says how much is shown of some events: of those of a target, or of
those with a field. It is read without the blanks around it, and the places found there are places
in the text with these blanks: blanks in front shift every part that is cut out.
-/

namespace Calculator

/-- A directive of a log filter. -/
structure Directive where
  /-- How the targets of the events in question start. -/
  target : Option String := none
  /-- A field that the events in question have. -/
  field : Option String := none
  /-- Whether the directive is about what happens inside a span, given by its name or by the value
  of a field. No event does. -/
  inSpan : Bool := false
  /-- The highest rank of a level that is shown; nothing is shown with zero. -/
  rank : Nat := Level.trace.rank
  deriving DecidableEq

namespace Directive

/-- Why a text is not read as a directive. -/
inductive Refusal where
  /-- It is not in the form of a directive. -/
  | malformed
  /-- One of its parts starts or ends inside a character. -/
  | torn
  deriving DecidableEq

/-- What is left to read of a directive, and the place where it starts. -/
structure Remainder where
  place : Nat
  unread : List Char

/-- The first of some ASCII marks, its place, and what is left behind it. -/
def Remainder.behind? (r : Remainder) (marks : List Char) : Option (Char × Nat × Remainder) :=
  match r.unread.dropWhile fun c => !marks.contains c with
  | [] => none
  | mark :: unread =>
    let stop := r.place + Text.byteCount (r.unread.takeWhile fun c => !marks.contains c)
    some (mark, stop, ⟨stop + 1, unread⟩)

/-- The part of a text between two places. -/
def part (text : List Char) (start stop : Nat) : Except Refusal (List Char) :=
  (Text.between? start stop text).elim (.error .torn) .ok

/-- Reads a level: its name in any letter case or its rank; `off` or zero shows nothing. -/
def rank? (cs : List Char) : Option Nat :=
  match String.ofList (cs.map Char.toLower) with
  | "off" => some 0
  | "error" => some Level.error.rank
  | "warn" => some Level.warn.rank
  | "info" => some Level.info.rank
  | "debug" => some Level.debug.rank
  | "trace" => some Level.trace.rank
  | _ =>
    let digits := match cs with
      | '+' :: digits => digits
      | digits => digits
    let rank := Numeral.natural digits
    if Lexical.isDigits digits && rank ≤ Level.trace.rank then some rank else none

/-- Gives a directive the level that stands from a place on. The level may be missing. -/
def withLevel (d : Directive) (text : List Char) (place : Nat) : Except Refusal Directive := do
  let level ← part text place (Text.byteCount text)
  if level.isEmpty then return d
  match rank? level with
  | some rank => return { d with rank }
  | none => throw .malformed

/-- Completes a directive by what stands behind its bracket: nothing, or an equals sign and a
level. -/
def complete (d : Directive) (text : List Char) (r : Remainder) : Except Refusal Directive :=
  match r.unread with
  | [] => .ok d
  | '=' :: _ => d.withLevel text (r.place + 1)
  | _ => .error .malformed

/-- Whether a field can be compared with a text: it is a numeral or an accepted pattern. -/
def isFieldValue (cs : List Char) : Bool :=
  (Number.parse? (String.ofList cs)).isSome || Pattern.accepts cs

/-- Gives a directive a field: its name, or its name and a value between equals signs. -/
def withField (d : Directive) (field : List Char) : Except Refusal Directive :=
  let name := some (String.ofList (field.takeWhile fun c => c != '='))
  match field.dropWhile fun c => c != '=' with
  | [] => if field.isEmpty then .error .malformed else .ok { d with field := name }
  | _ :: rest =>
    if isFieldValue (rest.takeWhile fun c => c != '=') then
      .ok { d with field := name, inSpan := true }
    else .error .malformed

/-- Reads what stands behind an opening square bracket: the name of a span, or a field in curly
braces, or both, up to the closing bracket, and then the level. -/
def ofSpan (target : Option String) (text : List Char) (r : Remainder) :
    Except Refusal Directive := do
  match r.behind? [']', '\x7b'] with
  | none => throw .malformed
  | some (mark, stop, inside) =>
    let span ← part text r.place stop
    if mark == ']' then complete { target, inSpan := true } text inside
    else
      match inside.behind? ['\x7d'] with
      | none => throw .malformed
      | some (_, stop, behind) =>
        let field ← part text inside.place stop
        let d ← withField { target, inSpan := !span.isEmpty } field
        match behind.unread with
        | ']' :: unread => complete d text ⟨behind.place + 1, unread⟩
        | _ => throw .malformed

/-- Whether a directive can start with a character, besides an opening bracket. -/
def isStart (c : Char) : Bool :=
  Text.isAlphanumeric c || c == '-' || c == ':' || c == '_'

/-- Reads a directive: a level alone, or a target with what follows it, or a bracket. -/
def parse (text : List Char) : Except Refusal Directive := do
  match Text.trimChars text with
  | [] => throw .malformed
  | '[' :: unread => ofSpan none text ⟨1, unread⟩
  | c :: cs =>
    if !isStart c then throw .malformed
    match Remainder.behind? ⟨0, c :: cs⟩ ['=', '['] with
    | none =>
      match rank? text with
      | some rank => return { rank }
      | none => return { target := some (String.ofList text) }
    | some (mark, stop, behind) =>
      let target ← part text 0 stop
      let d : Directive := { target := some (String.ofList target) }
      if mark == '=' then d.withLevel text behind.place else ofSpan d.target text behind

/-- Whether a directive applies to an event. -/
def appliesTo (d : Directive) (event : Event) : Bool :=
  !d.inSpan && d.target.all (event.target.startsWith ·) &&
    d.field.all fun field => field == "message" || event.fields.any fun entry => entry.1 == field

/-- Whether a directive is at least as specific as another one: a longer target comes first, then
a field, then the order of texts. -/
def atLeastAsSpecific (d other : Directive) : Bool :=
  let size := fun d : Directive => d.target.elim 0 fun target => target.utf8ByteSize + 1
  let fields := fun d : Directive => d.field.elim 0 fun _ => 1
  if size d != size other then size other < size d
  else if fields d != fields other then fields other < fields d
  else other.field.getD "" ≤ d.field.getD ""

end Directive

end Calculator
