import Calculator.CommandLine.Pattern.Atom

/-!
# Sets of characters

A set stands in square brackets. Its members are atoms, ranges, named classes and other sets, and
sets can be joined by operators, from left to right. Of a set it is known how deep its parts nest
and whether it has bytes outside ASCII.
-/

namespace Calculator.Pattern

/-- How deep parts nest that stand side by side: several parts are one level deeper than one. -/
def sideBySide : List Nat → Nat
  | [] => 0
  | [depth] => depth
  | depths => depths.foldl max 0 + 1

/-- The operators that join sets. -/
inductive SetOperator where
  | intersection
  | difference
  | symmetricDifference
  deriving DecidableEq

namespace SetOperator

/-- The character that, written twice, stands for an operator. -/
def ofSymbol? : Char → Option SetOperator
  | '&' => some intersection
  | '-' => some difference
  | '~' => some symmetricDifference
  | _ => none

/-- Whether joined sets have an element, if one has it or not and the other has it or not. -/
def joins : SetOperator → Bool → Bool → Bool
  | intersection, left, right => left && right
  | difference, left, right => left && !right
  | symmetricDifference, left, right => left != right

end SetOperator

/-- A set whose closing bracket is not read yet. -/
structure OpenSet where
  /-- Whether the set has what is not in its brackets. -/
  negated : Bool
  /-- Whether only hyphens have been read, which stand for themselves at the start. -/
  fresh : Bool := true
  /-- The operator whose right side is read, how deep its left side nests, and whether that side
  has bytes outside ASCII. -/
  left : Option (SetOperator × Nat × Bool) := none
  /-- How deep each member nests since the last operator. -/
  depths : List Nat := []
  /-- Whether one of these members has bytes outside ASCII. -/
  high : Bool := false
  deriving DecidableEq

namespace OpenSet

/-- Adds a member. -/
def add (s : OpenSet) (depth : Nat) (high : Bool) : OpenSet :=
  { s with depths := depth :: s.depths, high := s.high || high }

/-- How deep what has been read nests, and whether it has bytes outside ASCII. -/
def contents (s : OpenSet) : Nat × Bool :=
  let depth := sideBySide s.depths
  match s.left with
  | none => (depth, s.high)
  | some (op, leftDepth, leftHigh) => (max leftDepth depth + 1, op.joins leftHigh s.high)

/-- Goes on to the right side of an operator. -/
def operate (s : OpenSet) (op : SetOperator) : OpenSet :=
  { s with left := some (op, s.contents), depths := [], high := false }

/-- Opens a set behind its bracket. -/
def opening (m : Modes) (cs : List Char) : OpenSet × List Char :=
  match m.skip cs with
  | '^' :: rest => ({ negated := true }, rest)
  | rest => ({ negated := false }, rest)

/-- How deep a set nests; none if in byte mode it has bytes outside ASCII. -/
def close? (s : OpenSet) (m : Modes) : Option Nat :=
  let (depth, high) := s.contents
  if !m.unicode && high != s.negated then none else some (depth + 1)

/-- The names of classes. -/
def classNames : List String :=
  ["alnum", "alpha", "ascii", "blank", "cntrl", "digit", "graph", "lower", "print", "punct",
   "space", "upper", "word", "xdigit"]

/-- Reads a named class behind its bracket: the name between two colons and the closing bracket,
with a caret in front if the class has all other characters. -/
def namedClass? : List Char → Option (Bool × List Char)
  | ':' :: cs =>
    let negated := cs.head? == some '^'
    let text := if negated then cs.drop 1 else cs
    match text.dropWhile fun c => c != ':' with
    | ':' :: ']' :: rest =>
      if classNames.contains (String.ofList (text.takeWhile fun c => c != ':')) then
        some (negated, rest)
      else none
    | _ => none
  | _ => none

/-- Reads an atom or a range. A hyphen makes a range unless a hyphen or the closing bracket comes
next. -/
def member? (m : Modes) (c : Char) (cs : List Char) : Option (List Char) := do
  let (first, rest) ← Atom.read? m c cs
  if !first.isMember m then none
  match m.skip rest with
  | [] => none
  | '-' :: rest' =>
    if m.peek? rest' == some ']' || m.peek? rest' == some '-' then return '-' :: rest'
    match m.skip rest' with
    | [] => none
    | c :: cs =>
      let (last, rest) ← Atom.read? m c cs
      match first, last with
      | .character a _, .character b _ =>
        if a ≤ b && last.isMember m then return rest else none
      | _, _ => none
  | rest => return rest

end OpenSet

end Calculator.Pattern
