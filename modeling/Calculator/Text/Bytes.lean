/-!
# Places in texts

A text is encoded in UTF-8 and a place in it is a number of bytes. It can be cut between two
characters, not inside one.
-/

namespace Calculator.Text

/-- How many bytes encode a sequence of characters. -/
def byteCount : List Char → Nat
  | [] => 0
  | c :: cs => c.utf8Size + byteCount cs

/-- Cuts a sequence of characters at a place; none if the place is inside a character or behind
the end. -/
def cutAt? : Nat → List Char → Option (List Char × List Char)
  | 0, cs => some ([], cs)
  | _ + 1, [] => none
  | place + 1, c :: cs =>
    if c.utf8Size ≤ place + 1 then
      (cutAt? (place + 1 - c.utf8Size) cs).map fun (before, behind) => (c :: before, behind)
    else none

/-- The characters between two places. -/
def between? (start stop : Nat) (cs : List Char) : Option (List Char) := do
  let (before, _) ← cutAt? stop cs
  let (_, part) ← cutAt? start before
  return part

end Calculator.Text
