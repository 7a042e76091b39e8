import Calculator.CommandLine.Pattern.CharacterSet
import Calculator.Text.Numeric

/-!
# Patterns

A pattern is a regular expression. Its items are atoms, sets and groups in parentheses; items can
be repeated, and bars separate the branches of a group. A pattern is only checked here: nothing in
the program ever matches one.
-/

namespace Calculator.Pattern

/-- A group whose closing parenthesis is not read yet. The whole pattern counts as one. -/
structure OpenGroup where
  /-- The modes in force. -/
  modes : Modes := {}
  /-- How deep each finished branch nests. -/
  branches : List Nat := []
  /-- How deep each item of the branch being read nests, the last one first. -/
  items : List Nat := []
  /-- Whether the last item of the branch can be repeated. -/
  repeatable : Bool := false
  deriving DecidableEq

namespace OpenGroup

/-- Adds an item that can be repeated. -/
def add (g : OpenGroup) (depth : Nat) : OpenGroup :=
  { g with items := depth :: g.items, repeatable := true }

/-- Adds flags, which are an item that cannot be repeated. -/
def switch (g : OpenGroup) (modes : Modes) : OpenGroup :=
  { g with modes, items := 0 :: g.items, repeatable := false }

/-- Goes on to the next branch. -/
def nextBranch (g : OpenGroup) : OpenGroup :=
  { g with branches := sideBySide g.items :: g.branches, items := [], repeatable := false }

/-- Repeats the last item. -/
def repeatLast? (g : OpenGroup) : Option OpenGroup :=
  match g.items with
  | depth :: items => if g.repeatable then some { g with items := (depth + 1) :: items } else none
  | [] => none

/-- How deep the branches nest. -/
def depth (g : OpenGroup) : Nat :=
  sideBySide (sideBySide g.items :: g.branches)

end OpenGroup

/-- How far a pattern has been read. -/
structure Progress where
  /-- The innermost open group. -/
  group : OpenGroup := {}
  /-- The groups around it, from the inside out. -/
  outer : List OpenGroup := []
  /-- The sets that are open in it, from the inside out. -/
  sets : List OpenSet := []
  /-- The names that groups have. -/
  names : List (List Char) := []
  deriving DecidableEq

/-- Reads the name of a group up to the closing angle bracket. -/
def groupName? (cs : List Char) : Option (List Char × List Char) :=
  let name := cs.takeWhile fun c => c != '>'
  match name, cs.dropWhile fun c => c != '>' with
  | first :: others, _ :: rest =>
    if (first == '_' || Text.isAlphabetic first) &&
        others.all fun c => ['_', '.', '[', ']'].contains c || Text.isAlphanumeric c then
      some (name, rest)
    else none
  | _, _ => none

/-- How deep the parts of a pattern may nest. -/
def depthLimit : Nat := 250

namespace Progress

/-- The modes in force. -/
def modes (p : Progress) : Modes :=
  p.group.modes

/-- Adds an item to the innermost group. -/
def add (p : Progress) (depth : Nat) : Progress :=
  { p with group := p.group.add depth }

/-- Opens a group. -/
def openGroup (p : Progress) (modes : Modes) : Progress :=
  { p with group := { modes }, outer := p.group :: p.outer }

/-- Opens a group with a name that no other group has. -/
def openNamed? (p : Progress) (cs : List Char) : Option (Progress × List Char) := do
  let (name, rest) ← groupName? cs
  if p.names.contains name then none
  else return ({ p.openGroup p.modes with names := name :: p.names }, rest)

/-- Reads flags behind a parenthesis and a question mark. In front of a parenthesis they count
for the rest of the group, and there must be some; in front of a colon they open a group. -/
def flags? (p : Progress) (cs : List Char) : Option (Progress × List Char) := do
  let isEnd := fun c : Char => c == ':' || c == ')'
  let flags := cs.takeWhile fun c => !isEnd c
  let modes ← p.modes.switch? flags
  match cs.dropWhile fun c => !isEnd c with
  | ':' :: rest => return (p.openGroup modes, rest)
  | _ :: rest =>
    if flags.isEmpty then none else return ({ p with group := p.group.switch modes }, rest)
  | [] => none

/-- Reads what stands behind an opening parenthesis. -/
def opened? (p : Progress) (cs : List Char) : Option (Progress × List Char) :=
  match cs with
  | '?' :: 'P' :: '<' :: rest => p.openNamed? rest
  | '?' :: '<' :: rest => p.openNamed? rest
  | '?' :: rest => p.flags? rest
  | rest => some (p.openGroup p.modes, rest)

/-- Closes the innermost group. -/
def closeGroup? (p : Progress) : Option Progress :=
  match p.outer with
  | [] => none
  | group :: outer => some { p with group := group.add (p.group.depth + 1), outer }

/-- Reads an item of a group or what stands between items. Braces cannot bound a repetition. -/
def item? (p : Progress) (c : Char) (rest : List Char) : Option (Progress × List Char) :=
  match c with
  | '(' => p.opened? (p.modes.skip rest)
  | ')' => p.closeGroup?.map fun p => (p, rest)
  | '|' => some ({ p with group := p.group.nextBranch }, rest)
  | '[' =>
    let (s, rest) := OpenSet.opening p.modes rest
    some ({ p with sets := [s] }, rest)
  | '?' | '*' | '+' =>
    p.group.repeatLast?.map fun group =>
      ({ p with group }, if rest.head? == some '?' then rest.drop 1 else rest)
  | '\x7b' => none
  | '.' => if p.modes.unicode then some (p.add 0, rest) else none
  | '^' | '$' => some (p.add 0, rest)
  | _ => do
    let (atom, rest) ← Atom.read? p.modes c rest
    if atom.isPlain p.modes then return (p.add 0, rest) else none

/-- Goes on behind the closing bracket of a set that nests as deep as given. -/
def closeSet (p : Progress) (depth : Nat) : List OpenSet → Progress
  | [] => { p.add depth with sets := [] }
  | s :: outer => { p with sets := s.add depth false :: outer }

/-- Reads a member of the innermost set, an operator or a bracket. Hyphens at the start of the set
and a closing bracket as its first character stand for themselves. -/
def member? (p : Progress) (s : OpenSet) (outer : List OpenSet) (c : Char) (rest : List Char) :
    Option (Progress × List Char) :=
  let next := fun s : OpenSet => { p with sets := s :: outer }
  let begun := { s with fresh := false }
  if s.fresh && (c == '-' || c == ']' && s.depths.isEmpty) then
    if (Atom.character c false).isMember p.modes then
      some (next ({ s with fresh := c == '-' }.add 0 false), rest)
    else none
  else if c == '[' then
    match OpenSet.namedClass? rest with
    | some (negated, rest) =>
      if p.modes.unicode && p.modes.foldsCase then none
      else some (next (begun.add 0 negated), rest)
    | none =>
      let (inner, rest) := OpenSet.opening p.modes rest
      some ({ p with sets := inner :: begun :: outer }, rest)
  else if c == ']' then (s.close? p.modes).map fun depth => (p.closeSet depth outer, rest)
  else
    match if rest.head? == some c then SetOperator.ofSymbol? c else none with
    | some op => some (next (begun.operate op), rest.drop 1)
    | none => (OpenSet.member? p.modes c rest).map fun rest => (next (begun.add 0 false), rest)

/-- Reads on. -/
def step? (p : Progress) (c : Char) (rest : List Char) : Option (Progress × List Char) :=
  match p.sets with
  | [] => p.item? c rest
  | s :: outer => p.member? s outer c rest

/-- Reads the rest of a pattern; each step reads at least one character. -/
def finish? (p : Progress) (cs : List Char) : Option Progress :=
  match p.modes.skip cs with
  | [] => some p
  | c :: rest =>
    match p.step? c rest with
    | some (p, next) => if _h : next.length < cs.length then p.finish? next else none
    | none => none
termination_by cs.length

end Progress

/-- Whether a text is a pattern that is accepted: all its groups and sets are closed, and its parts
do not nest too deep. -/
def accepts (cs : List Char) : Bool :=
  match ({} : Progress).finish? cs with
  | some p => p.outer.isEmpty && p.sets.isEmpty && p.group.depth ≤ depthLimit
  | none => false

end Calculator.Pattern
