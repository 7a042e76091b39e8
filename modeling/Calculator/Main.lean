import Calculator.CommandLine.LogFilter
import Calculator.CommandLine.Run

/-!
# The program

The program reads its arguments, chooses a log filter, and works on the standard streams.
-/

namespace Calculator

/-- Computations of the program: they have the streams, and a filter for what is logged. -/
abbrev Program := ReaderT LogFilter IO

namespace Program

/-- A field of an event as it is logged. -/
def fieldText : String × Field → String
  | (name, .text text) => name ++ "=" ++ text
  | (name, .count n) => name ++ "=" ++ toString n
  | (name, .table b) =>
    name ++ "=[" ++
      ", ".intercalate (b.toList.map fun entry => entry.1 ++ ": " ++ Number.text entry.2) ++ "]"

/-- Events that the filter shows are logged to the error output. -/
instance : Journal Program where
  note event := do
    if (← read).shows event then
      let words := event.level.text :: event.message :: event.fields.map fieldText
      (← IO.getStderr).putStrLn (" ".intercalate words)

/-- Writes to a stream and flushes it. -/
def writeTo (stream : IO.FS.Stream) (text : String) : IO (Except Fault Unit) := do
  try
    stream.putStr text
    stream.flush
    return .ok ()
  catch e => return .error (.other (toString e))

/-- Reads the bytes up to and including the next line feed. -/
partial def readBytes (stream : IO.FS.Stream) (line : ByteArray) : IO ByteArray := do
  let bytes ← stream.read 1
  if bytes.isEmpty then return line
  else if bytes.toList == [10] then return line ++ bytes
  else readBytes stream (line ++ bytes)

/-- The terminal of the program is that of the standard streams. -/
instance : Terminal Program where
  readLine := do
    try
      let line ← readBytes (← IO.getStdin) .empty
      if line.isEmpty then return .ok none
      else return (String.fromUTF8? line).elim (.error .invalidEncoding) fun text => .ok (some text)
    catch e => return .error (.other (toString e))
  write text := do writeTo (← IO.getStdout) text

/-- The interactive loop. -/
partial def interact (s : Session) : Program (Session × Except Fault Unit) := do
  match ← s.turn with
  | .next s => interact s
  | .stop s outcome => return (s, outcome)

/-- Reads a script; none if there is no such file or it is not encoded in UTF-8. -/
def readScript? (path : String) : Program (Option String) := do
  try
    return String.fromUTF8? (← IO.FS.readBinFile path)
  catch _ => return none

end Program

end Calculator

open Calculator in
/-- Runs the program and returns its exit status. -/
def main (arguments : List String) : IO UInt32 := do
  match Arguments.parse arguments with
  | .error .help =>
    (← IO.getStdout).putStr helpText
    return 0
  | .error .version =>
    (← IO.getStdout).putStr versionText
    return 0
  | .error .misuse =>
    (← IO.getStderr).putStr helpText
    return misuseStatus.toUInt32
  | .ok a =>
    match LogFilter.choose? (← IO.getEnv "RUST_LOG") a.logFilter with
    | none => return tornFilterStatus.toUInt32
    | some filter =>
      let ending ← (a.run Program.interact Program.readScript?).run filter
      if let some complaint := ending.complaint? then
        (← IO.getStderr).putStrLn complaint
      return ending.status.toUInt32
