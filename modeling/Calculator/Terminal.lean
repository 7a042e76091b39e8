import Calculator.Error
import Calculator.Text.Lines

/-!
# Terminals

A terminal is read line by line and written text by text. The console is a terminal that is a
plain value: bytes not yet read, bytes written, and the room left for more.
-/

namespace Calculator

/-- A monad in which lines can be read and texts written. -/
class Terminal (m : Type → Type) where
  /-- Reads the next line with its line end; none at the end of the input. -/
  readLine : m (Except Fault (Option String))
  /-- Writes a text. -/
  write : String → m (Except Fault Unit)

/-- A terminal as a value. -/
structure Console where
  /-- The bytes that are not yet read. -/
  unread : List UInt8
  /-- The bytes that were written, in order. -/
  written : List UInt8 := []
  /-- How many more bytes can be written, if there is a limit. -/
  room : Option Nat := none
  deriving DecidableEq

namespace Console

/-- The bytes of a text in UTF-8. -/
def encode (text : String) : List UInt8 :=
  text.toUTF8.toList

/-- The text that bytes encode in UTF-8. -/
def decode? (bytes : List UInt8) : Option String :=
  String.fromUTF8? ⟨bytes.toArray⟩

/-- A line feed ends a line. -/
def isLineFeed (byte : UInt8) : Bool :=
  byte == 10

/-- Takes the next line off the input, also if it is not encoded in UTF-8. -/
def readLine (c : Console) : Except Fault (Option String) × Console :=
  if c.unread.isEmpty then (.ok none, c)
  else
    let (line, rest) := Text.firstLine isLineFeed c.unread
    let c := { c with unread := rest }
    match decode? line with
    | some text => (.ok (some text), c)
    | none => (.error .invalidEncoding, c)

/-- Writes as much of a text as there is room for. It fails if that is not all. -/
def write (c : Console) (text : String) : Except Fault Unit × Console :=
  let bytes := encode text
  let fitting := c.room.elim bytes fun room => bytes.take room
  let outcome := if fitting.length < bytes.length then .error .full else .ok ()
  (outcome, { c with written := c.written ++ fitting, room := c.room.map (· - bytes.length) })

/-- The number of lines that are not yet read. -/
def lineCount (c : Console) : Nat :=
  (Text.linesOf isLineFeed c.unread).length

/-- At the end of the input nothing is read. -/
theorem readLine_of_unread_nil {c : Console} (h : c.unread = []) : c.readLine = (.ok none, c) := by
  simp [readLine, h]

/-- Before the end of the input, reading takes exactly one line. -/
theorem lineCount_readLine {c : Console} (h : c.unread ≠ []) :
    c.readLine.2.lineCount + 1 = c.lineCount := by
  have unread : c.readLine.2.unread = (Text.firstLine isLineFeed c.unread).2 := by
    simp only [readLine, List.isEmpty_iff, h, if_false]
    split <;> rfl
  rw [lineCount, lineCount, unread, Text.linesOf_eq_cons isLineFeed h, List.length_cons]

/-- Without a limit, everything is written. -/
theorem write_of_room_none {c : Console} (h : c.room = none) (text : String) :
    c.write text = (.ok (), { c with written := c.written ++ encode text }) := by
  obtain ⟨unread, written, room⟩ := c
  cases h
  simp [write]

end Console

instance {m : Type → Type} [Monad m] : Terminal (StateT Console m) where
  readLine := modifyGet Console.readLine
  write text := modifyGet fun c => c.write text

end Calculator
