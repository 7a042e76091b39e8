import Calculator.CommandLine.Pattern.Modes

/-!
# Atoms of patterns

An atom is a single character of a pattern or what an escape stands for. No tables of classes and
of letter cases are at hand: in Unicode mode an atom that would need one is refused. In byte mode
an atom is refused that could stand for a part of a character.
-/

namespace Calculator.Pattern

/-- What a character or an escape stands for. -/
inductive Atom where
  /-- A character, which can be written as the number of a byte. -/
  | character (c : Char) (asByte : Bool)
  /-- One of some ASCII characters: the digits, the blanks or the characters of words. -/
  | asciiClass
  /-- The start or the end of the text. -/
  | textEdge
  /-- A place between a character of a word and one that is none, or not between such ones. -/
  | wordEdge
  deriving DecidableEq

namespace Atom

/-- Whether an atom is accepted outside of sets. -/
def isPlain (m : Modes) : Atom → Bool
  | character c asByte =>
    if m.unicode then !m.foldsCase else c.toNat < 128 || !(asByte || m.foldsCase)
  | asciiClass => !m.unicode
  | textEdge => true
  | wordEdge => !m.unicode

/-- Whether an atom is accepted as a member of a set. -/
def isMember (m : Modes) : Atom → Bool
  | character c _ => if m.unicode then !m.foldsCase else c.toNat < 128
  | asciiClass => !m.unicode
  | textEdge | wordEdge => false

/-- The value of a hexadecimal digit. -/
def hexDigit? (c : Char) : Option Nat :=
  if c.isDigit then some (c.toNat - '0'.toNat)
  else
    let letter := c.toLower
    if 'a' ≤ letter ∧ letter ≤ 'f' then some (letter.toNat - 'a'.toNat + 10) else none

/-- Reads that many more hexadecimal digits of a number. -/
def hexadecimal? (m : Modes) : Nat → Nat → List Char → Option (Nat × List Char)
  | 0, value, cs => some (value, cs)
  | count + 1, value, cs =>
    match m.skip cs with
    | [] => none
    | c :: rest => (hexDigit? c).bind fun d => hexadecimal? m count (16 * value + d) rest

/-- Reads a character that is given by that many hexadecimal digits. -/
def numbered? (m : Modes) (count : Nat) (cs : List Char) : Option (Atom × List Char) := do
  let (value, rest) ← hexadecimal? m count 0 cs
  if value.isValidChar then return (character (Char.ofNat value) (count == 2), rest) else none

/-- The control characters that letters stand for in escapes. -/
def controls : List (Char × Char) :=
  [('a', '\x07'), ('f', '\x0c'), ('n', '\n'), ('r', '\x0d'), ('t', '\t'), ('v', '\x0b')]

/-- Reads an escape behind its backslash. Besides the letters that have a meaning only ASCII
characters that are neither letters nor digits can be escaped, and each stands for itself. -/
def escape? (m : Modes) : List Char → Option (Atom × List Char)
  | [] => none
  | c :: rest =>
    match c with
    | 'x' => numbered? m 2 rest
    | 'u' => numbered? m 4 rest
    | 'U' => numbered? m 8 rest
    | 'd' | 's' | 'w' => some (asciiClass, rest)
    | 'A' | 'z' => some (textEdge, rest)
    | 'b' | 'B' | '<' | '>' => some (wordEdge, rest)
    | _ =>
      match controls.lookup c with
      | some control => some (character control false, rest)
      | none =>
        if c.toNat < 128 && !c.isAlphanum then some (character c false, rest) else none

/-- Reads an atom: an escape or a character that stands for itself. -/
def read? (m : Modes) (c : Char) (rest : List Char) : Option (Atom × List Char) :=
  if c == '\\' then escape? m rest else some (character c false, rest)

end Atom

end Calculator.Pattern
