import Calculator.Text.Blank

/-!
# Modes of patterns

Flags in a pattern switch modes, for the rest of the group in which they stand or for a group of
their own. The modes decide which characters count and what these can stand for.
-/

namespace Calculator.Pattern

/-- The modes that decide whether a pattern is accepted. -/
structure Modes where
  /-- The pattern describes characters. Otherwise it describes bytes. -/
  unicode : Bool := true
  /-- A letter stands for both of its cases. -/
  foldsCase : Bool := false
  /-- Blanks and comments between the parts of a pattern do not count. -/
  spaced : Bool := false
  deriving DecidableEq

/-- Drops blanks and comments, each from a hash to the end of the line, in front of a pattern that
may start inside a comment. -/
def dropSpace (inComment : Bool) : List Char → List Char
  | [] => []
  | c :: cs =>
    if inComment then dropSpace (c != '\n') cs
    else if Text.isBlank c then dropSpace false cs
    else if c == '#' then dropSpace true cs
    else c :: cs

namespace Modes

/-- Drops what does not count in front of a pattern. -/
def skip (m : Modes) (cs : List Char) : List Char :=
  if m.spaced then dropSpace false cs else cs

/-- The next character, where one hash and the blanks around it may not count. -/
def peek? (m : Modes) (cs : List Char) : Option Char :=
  if m.spaced then
    match cs.dropWhile Text.isBlank with
    | '#' :: rest => (rest.dropWhile Text.isBlank).head?
    | rest => rest.head?
  else cs.head?

/-- Switches modes by flags: those in front of a hyphen on and those behind it off. No flag may be
repeated, and one stands behind each hyphen. -/
def switch? (m : Modes) (flags : List Char) : Option Modes :=
  let on := flags.takeWhile fun c => c != '-'
  let off := flags.dropWhile fun c => c != '-'
  let switched := fun (flag : Char) (mode : Bool) =>
    on.contains flag || mode && !off.contains flag
  if flags.all ['i', 'm', 's', 'U', 'u', 'R', 'x', '-'].contains && flags.eraseDups == flags &&
      flags.getLast? != some '-' then
    some { unicode := switched 'u' m.unicode, foldsCase := switched 'i' m.foldsCase,
           spaced := switched 'x' m.spaced }
  else none

end Modes

end Calculator.Pattern
